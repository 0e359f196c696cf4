import Tricord.Library.SumOfMaxima
import Tricord.Sampler.Metrics

/-!
# What the aggregate record says about a run

This module states, without maps or loops, which record a sequence of ticks
stands for, and proves that the sampler computes it.  Three aggregation rules
occur: the maximum over ticks of a per-tick sum, the sum over PIDs of a
per-PID maximum, and the maximum of a list length.

Main results:

- Theorem {lit}`SamplerState.held_absorbAll` and its companions: every field of
  the state after a run, in closed form.
- Theorem {lit}`SamplerState.intoRecord_absorbAll`: folding any run and turning
  the state into a record gives {lit}`aggregateRecord`.
-/

namespace Tricord

open BoundedNat KeyedAccumulation KeyedMaxima

/-- The snapshots of one sampling tick. -/
abbrev Tick := List ProcessSnapshot

/-! ## The aggregate of a run -/

/-- Largest per-tick sum of a metric that every snapshot has. -/
def peakOfSums (read : ProcessSnapshot → U64) (ticks : List Tick) : U64 :=
  ((ticks.map fun tick => BoundedNat.total (tick.map read)).max?).getD 0

/-- Largest per-tick sum of an optional metric, over the ticks that expose it. -/
def peakOfSums? (read : ProcessSnapshot → Option U64) (ticks : List Tick) : Option U64 :=
  (ticks.filterMap fun tick => total? (tick.filterMap read)).max?

/-- Largest tick. -/
def peakLength (ticks : List Tick) : ℕ :=
  ((ticks.map List.length).max?).getD 0

/-- Sum over the observed PIDs of the largest exposed value of a counter. -/
def counterTotal? (read : ProcessSnapshot → Option U64) (ticks : List Tick) : Option U64 :=
  totalOfMaxima? ProcessSnapshot.pid read ticks.flatten

/-- Sum over the observed PIDs of the largest CPU time. -/
def cpuTotal (ticks : List Tick) : Seconds :=
  sumOfMaxima ProcessSnapshot.pid (fun snap => some snap.cpuTimeSeconds) ticks.flatten

/-- The record a run stands for. -/
def aggregateRecord (ticks : List Tick) (runningTime : Seconds) : BenchmarkRecord ℚ≥0 :=
  if ∀ tick ∈ ticks, tick = [] then
    { runningTime := runningTime
      dataCollected := false }
  else
    { runningTime := runningTime
      maxRss := some (bytesToMib (peakOfSums ProcessSnapshot.rssBytes ticks))
      maxVms := some (bytesToMib (peakOfSums ProcessSnapshot.vmsBytes ticks))
      maxUss := (peakOfSums? ProcessSnapshot.ussBytes ticks).map bytesToMib
      maxPss := (peakOfSums? ProcessSnapshot.pssBytes ticks).map bytesToMib
      ioIn := (counterTotal? ProcessSnapshot.ioReadBytes ticks).map bytesToMib
      ioOut := (counterTotal? ProcessSnapshot.ioWriteBytes ticks).map bytesToMib
      meanLoad := if runningTime > 0 then cpuTotal ticks / runningTime * (100 : ℕ) else 0
      cpuTime := cpuTotal ticks
      majorPageFaults := counterTotal? ProcessSnapshot.majorPageFaults ticks
      minorPageFaults := counterTotal? ProcessSnapshot.minorPageFaults ticks
      voluntaryCtxSwitches := counterTotal? ProcessSnapshot.voluntaryCtxSwitches ticks
      involuntaryCtxSwitches := counterTotal? ProcessSnapshot.involuntaryCtxSwitches ticks
      peakNThreads := peakOfSums? ProcessSnapshot.threadCount ticks
      peakNProcs := peakLength ticks
      maxSwap := (peakOfSums? ProcessSnapshot.swapBytes ticks).map bytesToMib
      dataCollected := true }

/-- A peak is at most another if every tick sum of the one is at most some tick sum
of the other. -/
theorem peakOfSums_le_of_dominated {read read' : ProcessSnapshot → U64} {xs ys : List Tick}
    (h : ∀ tick ∈ xs, ∃ tick' ∈ ys,
      BoundedNat.total (tick.map read) ≤ BoundedNat.total (tick'.map read')) :
    peakOfSums read xs ≤ peakOfSums read' ys := by
  apply max?_getD_le (BoundedNat.zero_le _)
  intro v hv
  rcases List.mem_map.mp hv with ⟨tick, htick, rfl⟩
  rcases h tick htick with ⟨tick', htick', hle⟩
  exact hle.trans (le_max?_getD 0 (List.mem_map_of_mem htick'))

/-- A peak is at most another one when every tick is dominated by some tick. -/
theorem peakOfSums?_le_of_dominated {read read' : ProcessSnapshot → Option U64}
    {xs ys : List Tick}
    (h : ∀ tick ∈ xs, ∃ tick' ∈ ys,
      total? (tick.filterMap read) ≤ total? (tick'.filterMap read')) :
    peakOfSums? read xs ≤ peakOfSums? read' ys := by
  apply max?_mono
  intro v hv
  rcases List.mem_filterMap.mp hv with ⟨tick, htick, hsum⟩
  rcases h tick htick with ⟨tick', htick', hle⟩
  rw [hsum] at hle
  cases hsum' : total? (tick'.filterMap read') with
  | none => exact absurd (hsum' ▸ hle) Option.not_some_le_none
  | some w =>
      rw [hsum', Option.some_le_some] at hle
      exact ⟨w, List.mem_filterMap.mpr ⟨tick', htick', hsum'⟩, hle⟩

/-- A peak is present exactly when some snapshot of some tick exposes the metric. -/
theorem peakOfSums?_isSome_iff {read : ProcessSnapshot → Option U64} {ticks : List Tick} :
    (peakOfSums? read ticks).isSome ↔
      ∃ tick ∈ ticks, ∃ snap ∈ tick, (read snap).isSome := by
  rw [peakOfSums?, List.isSome_max?_iff]
  constructor
  · intro hne
    rcases List.exists_mem_of_ne_nil _ hne with ⟨sum, hsum⟩
    rcases List.mem_filterMap.mp hsum with ⟨tick, htick, hsome⟩
    have hne : tick.filterMap read ≠ [] := by
      intro hnil
      rw [hnil] at hsome
      simp at hsome
    rcases List.exists_mem_of_ne_nil _ hne with ⟨v, hv⟩
    rcases List.mem_filterMap.mp hv with ⟨snap, hsnap, hread⟩
    exact ⟨tick, htick, snap, hsnap, by simp [hread]⟩
  · rintro ⟨tick, htick, snap, hsnap, hread⟩
    rcases Option.isSome_iff_exists.mp hread with ⟨v, hv⟩
    have hne : tick.filterMap read ≠ [] :=
      List.ne_nil_of_mem (List.mem_filterMap.mpr ⟨snap, hsnap, hv⟩)
    exact List.ne_nil_of_mem
      (List.mem_filterMap.mpr ⟨tick, htick, total?_eq_some hne⟩)

/-- A total is present exactly when some snapshot of some tick exposes the counter. -/
theorem counterTotal?_isSome_iff {read : ProcessSnapshot → Option U64} {ticks : List Tick} :
    (counterTotal? read ticks).isSome ↔
      ∃ tick ∈ ticks, ∃ snap ∈ tick, (read snap).isSome := by
  rw [counterTotal?, totalOfMaxima?_isSome_iff]
  simp only [List.mem_flatten]
  constructor
  · rintro ⟨snap, ⟨tick, htick, hsnap⟩, hread⟩
    exact ⟨tick, htick, snap, hsnap, hread⟩
  · rintro ⟨tick, htick, snap, hsnap, hread⟩
    exact ⟨snap, ⟨tick, htick, hsnap⟩, hread⟩

/-! ## Runs of the sampler -/

namespace SamplerState

/-- Fold a run of ticks from the default state. -/
def absorbAll (ticks : List Tick) : SamplerState :=
  ticks.foldl absorb {}

@[simp]
theorem absorbAll_nil : absorbAll [] = {} :=
  rfl

/-- The last tick is absorbed last. -/
theorem absorbAll_snoc (ticks : List Tick) (tick : Tick) :
    absorbAll (ticks ++ [tick]) = (absorbAll ticks).absorb tick := by
  simp [absorbAll]

/-- Every optional peak after a run is the maximum of the exposed tick sums. -/
theorem held_absorbAll (m : PeakMetric) (ticks : List Tick) :
    m.held (absorbAll ticks) = peakOfSums? m.read ticks := by
  have hloop : m.held (absorbAll ticks) = (ticks.map m.tickSum).foldl raise (m.held {}) :=
    foldl_field m.held (SamplerState.held_absorb m) ticks {}
  have hdefault : m.held {} = none := by cases m <;> rfl
  rw [hloop, hdefault, foldl_raise, reduceOption_map, peakOfSums?,
    funext m.tickSum_eq]

/-- The held size is the peak of its per-tick sums. -/
theorem size_absorbAll (m : SizeMetric) (ticks : List Tick) :
    m.held (absorbAll ticks) = peakOfSums m.read ticks := by
  have hloop : m.held (absorbAll ticks) = (ticks.map m.tickSum).foldl max (m.held {}) :=
    foldl_field m.held (SamplerState.size_absorb m) ticks {}
  have hdefault : m.held {} = 0 := by cases m <;> rfl
  rw [hloop, hdefault, foldl_max_eq_getD BoundedNat.zero_le, peakOfSums,
    funext m.tickSum_eq]

/-- The held number of processes is the length of the longest tick. -/
theorem maxNProcs_absorbAll (ticks : List Tick) :
    (absorbAll ticks).maxNProcs = peakLength ticks := by
  have hloop : (absorbAll ticks).maxNProcs = (ticks.map List.length).foldl max 0 :=
    foldl_field maxNProcs maxNProcs_absorb ticks {}
  rw [hloop, foldl_max_eq_getD Nat.zero_le, peakLength]

/-- The per-PID map accumulates the flattened run. -/
theorem perPid_absorbAll (ticks : List Tick) :
    (absorbAll ticks).perPid =
      accumulate ProcessSnapshot.pid ProcessAccum.update {} ∅ ticks.flatten := by
  induction ticks using List.reverseRecOn with
  | nil => rfl
  | append_singleton ticks tick ih =>
      rw [absorbAll_snoc, perPid_absorb, ih, List.flatten_append, accumulate_append]
      simp

/-- Absorbing never advances the previous cumulative values. -/
theorem prevCumulative_absorbAll (ticks : List Tick) :
    (absorbAll ticks).prevCumulative = ∅ := by
  induction ticks using List.reverseRecOn with
  | nil => rfl
  | append_singleton ticks tick ih => rw [absorbAll_snoc, prevCumulative_absorb, ih]

/-- Data is collected exactly when some tick is not empty. -/
theorem dataCollected_absorbAll_eq_false_iff (ticks : List Tick) :
    (absorbAll ticks).dataCollected = false ↔ ∀ tick ∈ ticks, tick = [] := by
  induction ticks using List.reverseRecOn with
  | nil => simp
  | append_singleton ticks tick ih =>
      rw [absorbAll_snoc, dataCollected_absorb, Bool.or_eq_false_iff, ih]
      simp only [List.mem_append, List.mem_singleton, Bool.not_eq_false',
        List.isEmpty_iff]
      constructor
      · rintro ⟨hall, hlast⟩ other (hmem | rfl)
        · exact hall other hmem
        · exact hlast
      · intro h
        exact ⟨fun other hmem => h other (Or.inl hmem), h tick (Or.inr rfl)⟩

/-- Every cumulative total after a run is the sum of the per-PID maxima. -/
theorem total_absorbAll (m : CounterMetric) (ticks : List Tick) :
    m.total (cumulativeTotals (values (absorbAll ticks).perPid)) =
      counterTotal? m.read ticks := by
  rw [m.total_cumulativeTotals, perPid_absorbAll]
  exact total?_values_accumulate m.held_default m.held_update ticks.flatten

/-- The CPU time of a process is the largest that was seen. -/
theorem cpuTime_foldl_update (snapshots : List ProcessSnapshot) :
    (snapshots.foldl ProcessAccum.update {}).cpuTimeSeconds =
      ((snapshots.filterMap fun snap => some snap.cpuTimeSeconds).max?).getD 0 := by
  rw [foldl_field ProcessAccum.cpuTimeSeconds ProcessAccum.cpuTimeSeconds_update,
    List.filterMap_eq_map']
  exact foldl_max_eq_getD (fun _ => zero_le) _

/-- The CPU total after a run is the exact sum of the per-PID maxima. -/
theorem cpuTime_absorbAll (ticks : List Tick) :
    (cumulativeTotals (values (absorbAll ticks).perPid)).cpuTime = cpuTotal ticks := by
  rw [cumulativeTotals_cpuTime, perPid_absorbAll, sum_values_accumulate,
    ← List.sum_toFinset _ (observedKeys_nodup _ _), toFinset_observedKeys, cpuTotal,
    sumOfMaxima]
  simp only [cpuTime_foldl_update]
  rfl

/-! ## The record of a run -/

/-- Materialising the state after a run reports the aggregate of the run. -/
theorem intoRecord_absorbAll_eq (ticks : List Tick) (runningTime : Seconds) :
    (absorbAll ticks).intoRecord runningTime = aggregateRecord ticks runningTime := by
  unfold intoRecord aggregateRecord
  by_cases hempty : ∀ tick ∈ ticks, tick = []
  · rw [if_pos hempty, (dataCollected_absorbAll_eq_false_iff ticks).mpr hempty]
    rfl
  · have hdata : (absorbAll ticks).dataCollected = true :=
      Bool.eq_true_of_not_eq_false fun hfalse =>
        hempty ((dataCollected_absorbAll_eq_false_iff ticks).mp hfalse)
    have hrss : (absorbAll ticks).maxRssBytes = _ := size_absorbAll .rss ticks
    have hvms : (absorbAll ticks).maxVmsBytes = _ := size_absorbAll .vms ticks
    have huss : (absorbAll ticks).maxUssBytes = _ := held_absorbAll .uss ticks
    have hpss : (absorbAll ticks).maxPssBytes = _ := held_absorbAll .pss ticks
    have hswap : (absorbAll ticks).maxSwapBytes = _ := held_absorbAll .swap ticks
    have hthreads : (absorbAll ticks).maxNThreads = _ := held_absorbAll .threads ticks
    have hioIn := total_absorbAll .ioIn ticks
    have hioOut := total_absorbAll .ioOut ticks
    have hmajor := total_absorbAll .majorPageFaults ticks
    have hminor := total_absorbAll .minorPageFaults ticks
    have hvol := total_absorbAll .voluntaryCtxSwitches ticks
    have hinvol := total_absorbAll .involuntaryCtxSwitches ticks
    simp only [CounterMetric.total, CounterMetric.read] at hioIn hioOut hmajor hminor
    simp only [CounterMetric.total, CounterMetric.read] at hvol hinvol
    rw [if_neg hempty, hdata]
    simp only [hrss, hvms, huss, hpss, hswap, hthreads, hioIn, hioOut, hmajor, hminor,
      hvol, hinvol, cpuTime_absorbAll, maxNProcs_absorbAll]
    rfl

/-- Folding any run from the default state and materialising the state gives
exactly the aggregate of the run, in every column, and an optional column is
present exactly when some snapshot of some tick exposes its metric. -/
theorem intoRecord_absorbAll (ticks : List Tick) (runningTime : Seconds) :
    (absorbAll ticks).intoRecord runningTime = aggregateRecord ticks runningTime ∧
      (∀ m : PeakMetric, (peakOfSums? m.read ticks).isSome ↔
        ∃ tick ∈ ticks, ∃ snap ∈ tick, (m.read snap).isSome) ∧
      (∀ m : CounterMetric, (counterTotal? m.read ticks).isSome ↔
        ∃ tick ∈ ticks, ∃ snap ∈ tick, (m.read snap).isSome) :=
  ⟨intoRecord_absorbAll_eq ticks runningTime,
    fun _ => peakOfSums?_isSome_iff, fun _ => counterTotal?_isSome_iff⟩

end SamplerState

end Tricord
