import Tricord.Library.KeyedMaxima
import Tricord.Sampler.State

/-!
# Metric families

The columns of the sampler fall into three families that are treated alike: the
optional metrics whose per-tick sums are maximised, the cumulative counters
that are accumulated per PID, and the four counters that also have a per-tick
delta.  Each family is an enumeration with one reader for every structure the
metric passes through, and every loop of the sampler gets one lemma per family.

Main results:

- Theorem {lit}`PeakMetric.tickSum_eq`: a per-tick sum is the clamped sum of
  the exposed values.
- Theorem {lit}`CounterMetric.total_cumulativeTotals`: a cumulative total is
  the clamped sum of the held maxima.
- Theorem {lit}`SamplerState.tick_state`: a tick changes nothing but the
  previous cumulative values.
-/

namespace Tricord

open BoundedNat KeyedAccumulation KeyedMaxima

/-- One field of a loop's accumulators is a loop of its own. -/
theorem foldl_field {A B X R : Type*} (field : A → B) {step : A → X → A}
    {read : X → R} {add : B → R → B}
    (h : ∀ a x, field (step a x) = add (field a) (read x)) (xs : List X) (a : A) :
    field (xs.foldl step a) = (xs.map read).foldl add (field a) := by
  rw [List.foldl_map]
  exact (List.foldl_hom field fun a x => (h a x).symm).symm

/-- The readings that are there, read off one by one. -/
theorem reduceOption_map {X R : Type*} (read : X → Option R) (xs : List X) :
    (xs.map read).reduceOption = xs.filterMap read := by
  rw [List.reduceOption, List.filterMap_map]
  rfl

/-! ## Sizes: every snapshot has them -/

/-- The metrics that every snapshot exposes. -/
inductive SizeMetric
  | rss
  | vms
deriving DecidableEq

namespace SizeMetric

/-- What a snapshot exposes. -/
def read : SizeMetric → ProcessSnapshot → U64
  | rss => ProcessSnapshot.rssBytes
  | vms => ProcessSnapshot.vmsBytes

/-- The sum over a tick, as the sampler computes it. -/
def tickSum (m : SizeMetric) (snapshots : List ProcessSnapshot) : U64 :=
  match m with
  | rss => (sumMemory snapshots).rss
  | vms => (sumMemory snapshots).vms

/-- The peak that the state holds. -/
def held : SizeMetric → SamplerState → U64
  | rss => SamplerState.maxRssBytes
  | vms => SamplerState.maxVmsBytes

/-- The column of a row. -/
def inRow : SizeMetric → TickRecord ℚ≥0 → ℚ≥0
  | rss => TickRecord.rss
  | vms => TickRecord.vms

/-- The per-tick sum of a size is the clamped exact sum. -/
theorem tickSum_eq (m : SizeMetric) (snapshots : List ProcessSnapshot) :
    m.tickSum snapshots = total (snapshots.map m.read) := by
  rw [← foldl_saturatingAdd]
  cases m with
  | rss => exact foldl_field MemoryLoop.rss (fun _ _ => rfl) snapshots {}
  | vms => exact foldl_field MemoryLoop.vms (fun _ _ => rfl) snapshots {}

end SizeMetric

/-! ## Peaks: optional metrics, maximised over ticks -/

/-- The optional metrics whose per-tick sums are maximised. -/
inductive PeakMetric
  | uss
  | pss
  | swap
  | threads
deriving DecidableEq

namespace PeakMetric

/-- What a snapshot exposes, if anything. -/
def read : PeakMetric → ProcessSnapshot → Option U64
  | uss => ProcessSnapshot.ussBytes
  | pss => ProcessSnapshot.pssBytes
  | swap => ProcessSnapshot.swapBytes
  | threads => ProcessSnapshot.threadCount

/-- The sum over a tick, as the sampler computes it. -/
def tickSum (m : PeakMetric) (snapshots : List ProcessSnapshot) : Option U64 :=
  match m with
  | uss => (sumMemory snapshots).uss
  | pss => (sumMemory snapshots).pss
  | swap => (sumMemory snapshots).swap
  | threads => sumThreadCount snapshots

/-- The peak that the state holds. -/
def held : PeakMetric → SamplerState → Option U64
  | uss => SamplerState.maxUssBytes
  | pss => SamplerState.maxPssBytes
  | swap => SamplerState.maxSwapBytes
  | threads => SamplerState.maxNThreads

/-- The per-tick sum of an optional metric is the clamped sum of the exposed
values, and nothing when no process exposes it. -/
theorem tickSum_eq (m : PeakMetric) (snapshots : List ProcessSnapshot) :
    m.tickSum snapshots = total? (snapshots.filterMap m.read) := by
  rw [← reduceOption_map, ← ExposedSum.result_foldl]
  cases m with
  | uss =>
      exact congrArg ExposedSum.result
        (foldl_field MemoryLoop.uss (fun _ _ => rfl) snapshots {})
  | pss =>
      exact congrArg ExposedSum.result
        (foldl_field MemoryLoop.pss (fun _ _ => rfl) snapshots {})
  | swap =>
      exact congrArg ExposedSum.result
        (foldl_field MemoryLoop.swap (fun _ _ => rfl) snapshots {})
  | threads =>
      exact congrArg ExposedSum.result List.foldl_map.symm

end PeakMetric

/-! ## Counters: cumulative, one running maximum per PID -/

/-- The cumulative counters accumulated per PID. -/
inductive CounterMetric
  | ioIn
  | ioOut
  | majorPageFaults
  | minorPageFaults
  | voluntaryCtxSwitches
  | involuntaryCtxSwitches
deriving DecidableEq

namespace CounterMetric

/-- What a snapshot exposes, if anything. -/
def read : CounterMetric → ProcessSnapshot → Option U64
  | ioIn => ProcessSnapshot.ioReadBytes
  | ioOut => ProcessSnapshot.ioWriteBytes
  | majorPageFaults => ProcessSnapshot.majorPageFaults
  | minorPageFaults => ProcessSnapshot.minorPageFaults
  | voluntaryCtxSwitches => ProcessSnapshot.voluntaryCtxSwitches
  | involuntaryCtxSwitches => ProcessSnapshot.involuntaryCtxSwitches

/-- The value that the entry of a process holds. -/
def held : CounterMetric → ProcessAccum → Option U64
  | ioIn => ProcessAccum.ioReadBytes
  | ioOut => ProcessAccum.ioWriteBytes
  | majorPageFaults => ProcessAccum.majorPageFaults
  | minorPageFaults => ProcessAccum.minorPageFaults
  | voluntaryCtxSwitches => ProcessAccum.voluntaryCtxSwitches
  | involuntaryCtxSwitches => ProcessAccum.involuntaryCtxSwitches

/-- The total over all processes. -/
def total : CounterMetric → CumulativeTotals → Option U64
  | ioIn => CumulativeTotals.ioIn
  | ioOut => CumulativeTotals.ioOut
  | majorPageFaults => CumulativeTotals.majorPageFaults
  | minorPageFaults => CumulativeTotals.minorPageFaults
  | voluntaryCtxSwitches => CumulativeTotals.voluntaryCtxSwitches
  | involuntaryCtxSwitches => CumulativeTotals.involuntaryCtxSwitches

/-- The loop variable that sums this counter. -/
def loopSum : CounterMetric → TotalsLoop → ExposedSum u64Max
  | ioIn => TotalsLoop.ioIn
  | ioOut => TotalsLoop.ioOut
  | majorPageFaults => TotalsLoop.majorPageFaults
  | minorPageFaults => TotalsLoop.minorPageFaults
  | voluntaryCtxSwitches => TotalsLoop.voluntaryCtxSwitches
  | involuntaryCtxSwitches => TotalsLoop.involuntaryCtxSwitches

/-- A new entry holds no counter. -/
@[simp]
theorem held_default (m : CounterMetric) : m.held {} = none := by
  cases m <;> rfl

/-- One snapshot raises the entry of its PID. -/
theorem held_update (m : CounterMetric) (entry : ProcessAccum) (snap : ProcessSnapshot) :
    m.held (entry.update snap) = raise (m.held entry) (m.read snap) := by
  cases m <;> rfl

/-- The loop starts with no sum. -/
@[simp]
theorem loopSum_default (m : CounterMetric) : m.loopSum {} = {} := by
  cases m <;> rfl

/-- The loop observes what each entry holds. -/
theorem loopSum_add (m : CounterMetric) (acc : TotalsLoop) (accum : ProcessAccum) :
    m.loopSum (acc.add accum) = (m.loopSum acc).observe (m.held accum) := by
  cases m <;> rfl

/-- A total is the result of its loop variable. -/
theorem total_eq_loopSum (m : CounterMetric) (accums : List ProcessAccum) :
    m.total (cumulativeTotals accums) =
      (m.loopSum (accums.foldl TotalsLoop.add {})).result := by
  cases m <;> rfl

/-- A cumulative total is the clamped sum of the held maxima. -/
theorem total_cumulativeTotals (m : CounterMetric) (accums : List ProcessAccum) :
    m.total (cumulativeTotals accums) = total? (accums.filterMap m.held) := by
  rw [total_eq_loopSum, foldl_field m.loopSum m.loopSum_add, loopSum_default,
    ExposedSum.result_foldl, reduceOption_map]

end CounterMetric

/-- The total CPU time is the sum over the entries. -/
theorem cumulativeTotals_cpuTime (accums : List ProcessAccum) :
    (cumulativeTotals accums).cpuTime =
      (accums.map ProcessAccum.cpuTimeSeconds).sum := by
  rw [List.sum_eq_foldl]
  exact foldl_field TotalsLoop.cpuTime (fun _ _ => rfl) accums {}

/-- The CPU time of an entry is raised to that of the snapshot. -/
theorem ProcessAccum.cpuTimeSeconds_update (entry : ProcessAccum) (snap : ProcessSnapshot) :
    (entry.update snap).cpuTimeSeconds =
      max entry.cpuTimeSeconds snap.cpuTimeSeconds := by
  rw [max_def]
  simp only [ProcessAccum.update, gt_iff_lt]
  split_ifs with hlt hle hle
  · rfl
  · exact absurd hlt.le hle
  · exact le_antisymm hle (not_lt.mp hlt)
  · rfl

/-! ## Deltas: the counters that also have a per-tick difference -/

/-- The four counters reported as per-tick deltas. -/
inductive DeltaMetric
  | majorPageFaults
  | minorPageFaults
  | voluntaryCtxSwitches
  | involuntaryCtxSwitches
deriving DecidableEq

namespace DeltaMetric

/-- Every delta metric is a cumulative counter. -/
def counter : DeltaMetric → CounterMetric
  | majorPageFaults => .majorPageFaults
  | minorPageFaults => .minorPageFaults
  | voluntaryCtxSwitches => .voluntaryCtxSwitches
  | involuntaryCtxSwitches => .involuntaryCtxSwitches

/-- What a snapshot exposes of the counter. -/
def read (m : DeltaMetric) : ProcessSnapshot → Option U64 :=
  m.counter.read

/-- The value of the counter one tick earlier. -/
def prev : DeltaMetric → PrevCumulative → U64
  | majorPageFaults => PrevCumulative.majorPageFaults
  | minorPageFaults => PrevCumulative.minorPageFaults
  | voluntaryCtxSwitches => PrevCumulative.voluntaryCtxSwitches
  | involuntaryCtxSwitches => PrevCumulative.involuntaryCtxSwitches

/-- The loop variable that sums this delta. -/
def loopSum : DeltaMetric → DeltaLoop → ExposedSum u64Max
  | majorPageFaults => DeltaLoop.majorPageFaults
  | minorPageFaults => DeltaLoop.minorPageFaults
  | voluntaryCtxSwitches => DeltaLoop.voluntaryCtxSwitches
  | involuntaryCtxSwitches => DeltaLoop.involuntaryCtxSwitches

/-- The column of a row. -/
def inRow : DeltaMetric → TickRecord ℚ≥0 → Option U64
  | majorPageFaults => TickRecord.majorPageFaults
  | minorPageFaults => TickRecord.minorPageFaults
  | voluntaryCtxSwitches => TickRecord.voluntaryCtxSwitches
  | involuntaryCtxSwitches => TickRecord.involuntaryCtxSwitches

/-- The column of the record. -/
def inRecord : DeltaMetric → BenchmarkRecord ℚ≥0 → Option U64
  | majorPageFaults => BenchmarkRecord.majorPageFaults
  | minorPageFaults => BenchmarkRecord.minorPageFaults
  | voluntaryCtxSwitches => BenchmarkRecord.voluntaryCtxSwitches
  | involuntaryCtxSwitches => BenchmarkRecord.involuntaryCtxSwitches

/-- A process that is new starts from zero. -/
@[simp]
theorem prev_default (m : DeltaMetric) : m.prev {} = 0 := by
  cases m <;> rfl

/-- An exposed counter replaces the previous value, an unobserved one keeps it. -/
theorem prev_advance (m : DeltaMetric) (prev : PrevCumulative) (snap : ProcessSnapshot) :
    m.prev (prev.advance snap) = (m.read snap).getD (m.prev prev) := by
  cases m <;> rfl

/-- The loop observes the rise since the previous tick. -/
theorem loopSum_add (m : DeltaMetric) (acc : DeltaLoop) (snap : ProcessSnapshot) :
    m.loopSum (acc.add snap) = (m.loopSum acc).observe
      ((m.read snap).map fun current =>
        current.saturatingSub (m.prev ((acc.prevCumulative.lookup snap.pid).getD {}))) := by
  cases m <;> rfl

end DeltaMetric

/-- The loop advances the previous values snapshot by snapshot. -/
theorem DeltaLoop.prevCumulative_foldl (snapshots : List ProcessSnapshot)
    (acc : DeltaLoop) :
    (snapshots.foldl DeltaLoop.add acc).prevCumulative =
      accumulate ProcessSnapshot.pid PrevCumulative.advance {} acc.prevCumulative
        snapshots := by
  induction snapshots generalizing acc with
  | nil => rfl
  | cons snap snapshots ih =>
      rw [List.foldl_cons, ih]
      rfl

/-! ## What one call does to the state -/

namespace SamplerState

@[simp]
theorem absorb_nil (self : SamplerState) : self.absorb [] = self :=
  rfl

/-- On a non-empty tick the aggregate is raised by the sums of the tick. -/
theorem held_absorb (m : PeakMetric) (self : SamplerState)
    (snapshots : List ProcessSnapshot) :
    m.held (self.absorb snapshots) = raise (m.held self) (m.tickSum snapshots) := by
  cases snapshots with
  | nil => cases m <;> rfl
  | cons snap snapshots => cases m <;> rfl

/-- A held size becomes the maximum of itself and the sum of the tick. -/
theorem size_absorb (m : SizeMetric) (self : SamplerState)
    (snapshots : List ProcessSnapshot) :
    m.held (self.absorb snapshots) = max (m.held self) (m.tickSum snapshots) := by
  cases snapshots with
  | nil =>
      rw [absorb_nil, SizeMetric.tickSum_eq]
      simp [total]
  | cons snap snapshots => cases m <;> rfl

/-- The largest number of processes takes the length of the tick into account. -/
theorem maxNProcs_absorb (self : SamplerState) (snapshots : List ProcessSnapshot) :
    (self.absorb snapshots).maxNProcs = max self.maxNProcs snapshots.length := by
  cases snapshots with
  | nil => simp
  | cons snap snapshots => rfl

/-- Every snapshot updates the entry of its PID. -/
theorem perPid_absorb (self : SamplerState) (snapshots : List ProcessSnapshot) :
    (self.absorb snapshots).perPid =
      accumulate ProcessSnapshot.pid ProcessAccum.update {} self.perPid snapshots := by
  cases snapshots <;> rfl

/-- Data has been collected once a tick was not empty. -/
theorem dataCollected_absorb (self : SamplerState) (snapshots : List ProcessSnapshot) :
    (self.absorb snapshots).dataCollected =
      (self.dataCollected || !snapshots.isEmpty) := by
  cases snapshots with
  | nil => simp
  | cons snap snapshots => simp [absorb]

/-- Absorbing leaves the previous values alone. -/
theorem prevCumulative_absorb (self : SamplerState) (snapshots : List ProcessSnapshot) :
    (self.absorb snapshots).prevCumulative = self.prevCumulative := by
  cases snapshots <;> rfl

/-- A tick changes nothing but the previous cumulative values. -/
theorem tick_state (self : SamplerState) (snapshots : List ProcessSnapshot)
    (elapsed : Seconds) :
    (self.tick snapshots elapsed).1 =
      { self with
        prevCumulative :=
          accumulate ProcessSnapshot.pid PrevCumulative.advance {} self.prevCumulative
            snapshots } := by
  cases snapshots with
  | nil => rfl
  | cons snap snapshots =>
      rw [← DeltaLoop.prevCumulative_foldl (snap :: snapshots)
        { prevCumulative := self.prevCumulative }]
      rfl

/-- The previous cumulative values play no part in absorbing. -/
theorem absorb_with_prevCumulative (self : SamplerState)
    (prev : KeyMap Pid PrevCumulative) (snapshots : List ProcessSnapshot) :
    ({ self with prevCumulative := prev } : SamplerState).absorb snapshots =
      { self.absorb snapshots with prevCumulative := prev } := by
  cases snapshots <;> rfl

end SamplerState

end Tricord
