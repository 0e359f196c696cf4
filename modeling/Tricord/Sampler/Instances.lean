import Tricord.Library.Increments
import Tricord.Sampler.Trace

/-!
# Process instances behind the PIDs

The sampler sees PIDs, the reader of a record thinks of processes.  A
{lit}`ProcessHistory` is a run whose snapshots carry the process instance they
belong to: an instance has one PID, and instances that share a PID hold it one
after the other.  This module says what the per-tick deltas and the aggregate
totals are worth in terms of instances.

Main results:

- Theorem {lit}`deltaTotal_le_rise` and {lit}`clamp_rise_le_deltaTotal`: the
  deltas of a trace are the increments of the observed PIDs.
- Theorem {lit}`ProcessHistory.deltas_between`: the aggregate, the trace and the
  truth are in this order.
- Theorem {lit}`ProcessHistory.countsEveryInstance_iff`: exactly when the
  aggregate counts every instance.
-/

namespace Tricord

open BoundedNat KeyedAccumulation KeyedMaxima

/-! ## The deltas of a trace -/

/-- The deltas of one metric, added over all rows in unbounded integers. -/
def deltaTotal (m : DeltaMetric) (rows : List (TickRecord ℚ≥0)) : ℕ :=
  (rows.map fun row => ((m.inRow row).getD 0).toNat).sum

/-- The previous value of a PID is the last value it exposed. -/
theorem toNat_prev_accumulate (m : DeltaMetric) (snapshots : List ProcessSnapshot)
    (pid : Pid) :
    (m.prev (((accumulate ProcessSnapshot.pid PrevCumulative.advance {}
      (∅ : KeyMap Pid PrevCumulative) snapshots).lookup pid).getD {})).toNat =
      lastReading ProcessSnapshot.pid (natReading m.read) snapshots pid :=
  toNat_held_accumulate m.prev_default m.prev_advance snapshots pid

/-- The differences of one tick add up to its increments. -/
theorem sum_deltaReadings (m : DeltaMetric) (before snapshots : List ProcessSnapshot) :
    ((deltaReadings m (accumulate ProcessSnapshot.pid PrevCumulative.advance {} ∅ before)
      snapshots).reduceOption.map toNat).sum =
      rise ProcessSnapshot.pid (natReading m.read) before snapshots := by
  induction snapshots generalizing before with
  | nil => rfl
  | cons snap snapshots ih =>
      have hprev := toNat_prev_accumulate m before snap.pid
      have hrest := ih (before ++ [snap])
      rw [accumulate_append] at hrest
      rw [deltaReadings, rise, ← hrest, ← hprev]
      cases hread : m.read snap with
      | none => simp [natReading, hread, accumulate]
      | some v => simp [natReading, hread, accumulate]

/-- The delta of one row is the clamped increment of its tick. -/
theorem toNat_inRow (m : DeltaMetric) {ticks : List (Tick × Seconds)}
    {tick : Tick × Seconds} {row : TickRecord ℚ≥0}
    (h : IsRowOf (stateAtRow ticks tick) tick.1 tick.2 row) :
    ((m.inRow row).getD 0).toNat =
      min (rise ProcessSnapshot.pid (natReading m.read) (tickLists ticks).flatten tick.1)
        u64Max := by
  have hprev : (stateAtRow ticks tick).prevCumulative =
      accumulate ProcessSnapshot.pid PrevCumulative.advance {} ∅
        (tickLists ticks).flatten := by
    rw [stateAtRow, SamplerState.prevCumulative_absorb, traceRun_prevCumulative]
  rw [h.delta_eq, total?_getD, toNat_total, hprev, sum_deltaReadings]

/-- One more tick adds its snapshots. -/
theorem flatten_tickLists_snoc (ticks : List (Tick × Seconds)) (tick : Tick × Seconds) :
    (tickLists (ticks ++ [tick])).flatten = (tickLists ticks).flatten ++ tick.1 := by
  simp

/-- One turn adds the clamped increment of its tick to the deltas. -/
theorem deltaTotal_snoc (m : DeltaMetric) (ticks : List (Tick × Seconds))
    (tick : Tick × Seconds) :
    deltaTotal m (traceRun (ticks ++ [tick])).rows =
      deltaTotal m (traceRun ticks).rows +
        min (rise ProcessSnapshot.pid (natReading m.read) (tickLists ticks).flatten tick.1)
          u64Max := by
  by_cases hempty : tick.1 = []
  · rcases tick with ⟨snapshots, elapsed⟩
    subst hempty
    rw [rows_snoc_nil]
    simp [rise]
  · rcases rows_snoc ticks hempty with ⟨row, hrows, hspec⟩
    rw [hrows, ← toNat_inRow m hspec]
    simp [deltaTotal]

/-- The deltas never exceed the increments of the observed PIDs. -/
theorem deltaTotal_le_rise (m : DeltaMetric) (ticks : List (Tick × Seconds)) :
    deltaTotal m (traceRun ticks).rows ≤
      rise ProcessSnapshot.pid (natReading m.read) [] (tickLists ticks).flatten := by
  induction ticks using List.reverseRecOn with
  | nil => exact Nat.zero_le _
  | append_singleton ticks tick ih =>
      rw [deltaTotal_snoc, flatten_tickLists_snoc, rise_append, List.nil_append]
      omega

/-- The deltas reach the increments, clamped to the range of one column. -/
theorem clamp_rise_le_deltaTotal (m : DeltaMetric) (ticks : List (Tick × Seconds)) :
    min (rise ProcessSnapshot.pid (natReading m.read) [] (tickLists ticks).flatten) u64Max ≤
      deltaTotal m (traceRun ticks).rows := by
  induction ticks using List.reverseRecOn with
  | nil => exact Nat.min_le_left _ _
  | append_singleton ticks tick ih =>
      rw [deltaTotal_snoc, flatten_tickLists_snoc, rise_append, List.nil_append]
      omega

/-! ## Columns of the record in raw units -/

/-- The record reports this total of the counter, in MiB for the byte counters. -/
def CounterMetric.Reports (record : BenchmarkRecord ℚ≥0) (total : Option U64) :
    CounterMetric → Prop
  | ioIn => record.ioIn = total.map bytesToMib
  | ioOut => record.ioOut = total.map bytesToMib
  | majorPageFaults => record.majorPageFaults = total
  | minorPageFaults => record.minorPageFaults = total
  | voluntaryCtxSwitches => record.voluntaryCtxSwitches = total
  | involuntaryCtxSwitches => record.involuntaryCtxSwitches = total

theorem counterTotal?_of_forall_eq_nil {ticks : List Tick} (h : ∀ tick ∈ ticks, tick = [])
    (read : ProcessSnapshot → Option U64) : counterTotal? read ticks = none := by
  rw [counterTotal?, List.flatten_eq_nil_iff.mpr h]
  rfl

/-- The aggregate reports exactly the sum of the per-PID maxima. -/
theorem reports_aggregateRecord_iff (m : CounterMetric) (ticks : List Tick)
    (runningTime : Seconds) (total : Option U64) :
    m.Reports (aggregateRecord ticks runningTime) total ↔
      counterTotal? m.read ticks = total := by
  have hinj := Option.map_injective bytesToMib_strictMono.injective
  unfold aggregateRecord
  by_cases hempty : ∀ tick ∈ ticks, tick = []
  · rw [if_pos hempty, counterTotal?_of_forall_eq_nil hempty]
    cases m <;> cases total <;> simp [CounterMetric.Reports]
  · rw [if_neg hempty]
    cases m with
    | ioIn => exact hinj.eq_iff
    | ioOut => exact hinj.eq_iff
    | majorPageFaults => exact Iff.rfl
    | minorPageFaults => exact Iff.rfl
    | voluntaryCtxSwitches => exact Iff.rfl
    | involuntaryCtxSwitches => exact Iff.rfl

/-- The CPU time of the aggregate is the total of the ticks. -/
theorem cpuTime_aggregateRecord (ticks : List Tick) (runningTime : Seconds) :
    (aggregateRecord ticks runningTime).cpuTime = cpuTotal ticks := by
  unfold aggregateRecord
  by_cases hempty : ∀ tick ∈ ticks, tick = []
  · rw [if_pos hempty, cpuTotal, List.flatten_eq_nil_iff.mpr hempty]
    rfl
  · rw [if_neg hempty]

/-- A counter of the aggregate is the total of the ticks. -/
theorem inRecord_aggregateRecord (m : DeltaMetric) (ticks : List Tick)
    (runningTime : Seconds) :
    m.inRecord (aggregateRecord ticks runningTime) = counterTotal? m.read ticks := by
  have hreports := (reports_aggregateRecord_iff m.counter ticks runningTime
    (counterTotal? m.read ticks)).mpr rfl
  cases m <;> exact hreports

/-! ## Histories -/

/-- A run in which every snapshot belongs to a process instance.  Every instance
has one PID, PIDs are distinct within a tick, and instances that share a PID are
observed in separate stretches. -/
structure ProcessHistory (ι : Type) where
  ticks : List (List (ι × ProcessSnapshot) × Seconds)
  pidOf : ι → Pid
  pid_eq : ∀ tick ∈ ticks, ∀ o ∈ tick.1, o.2.pid = pidOf o.1
  pids_nodup : ∀ tick ∈ ticks, (tick.1.map fun o => o.2.pid).Nodup
  consecutive : Consecutive Prod.fst pidOf (ticks.map Prod.fst).flatten

/-- The CPU seconds of a snapshot, which every snapshot exposes. -/
def cpuReading (snap : ProcessSnapshot) : Option Seconds :=
  some snap.cpuTimeSeconds

namespace ProcessHistory

variable {ι : Type} [DecidableEq ι] {M : Type} [AddCommMonoid M] [LinearOrder M]

/-- All observations of the run, in order. -/
def observations (history : ProcessHistory ι) : List (ι × ProcessSnapshot) :=
  (history.ticks.map Prod.fst).flatten

/-- What the sampler sees of the run. -/
def sampled (history : ProcessHistory ι) : List (Tick × Seconds) :=
  history.ticks.map fun tick => (tick.1.map Prod.snd, tick.2)

/-- For each instance, the exposed values of the metric never decrease. -/
def NeverDecreases (history : ProcessHistory ι) (read : ProcessSnapshot → Option M) : Prop :=
  Nondecreasing Prod.fst (read ∘ Prod.snd) history.observations

/-- The sum over all observed instances of the last value exposed by each. -/
def lastTotal (history : ProcessHistory ι) (read : ProcessSnapshot → Option M) : M :=
  sumOfLast Prod.fst (read ∘ Prod.snd) history.observations

/-- No two instances with the same PID both contribute to the metric. -/
def NoSharedContribution (history : ProcessHistory ι)
    (read : ProcessSnapshot → Option M) : Prop :=
  SoleContributor Prod.fst history.pidOf (read ∘ Prod.snd) history.observations

/-- The sum over the observed PIDs of the largest value exposed under each. -/
def pidTotal (history : ProcessHistory ι) (read : ProcessSnapshot → Option M) : M :=
  sumOfMaxima (ProcessSnapshot.pid ∘ Prod.snd) (read ∘ Prod.snd) history.observations

/-- No two observed instances share a PID. -/
def PidsUnshared (history : ProcessHistory ι) : Prop :=
  ∀ o ∈ history.observations, ∀ p ∈ history.observations,
    history.pidOf o.1 = history.pidOf p.1 → o.1 = p.1

omit [DecidableEq ι] in
/-- The snapshots of a history are those of its observations. -/
theorem flatten_sampled (history : ProcessHistory ι) :
    (tickLists history.sampled).flatten = history.observations.map Prod.snd := by
  unfold sampled observations
  rw [List.map_flatten, tickLists, List.map_map, List.map_map]
  rfl

omit [DecidableEq ι] in
/-- An instance is observed under its own PID. -/
theorem pidOf_eq (history : ProcessHistory ι) :
    ∀ o ∈ history.observations, history.pidOf o.1 = (ProcessSnapshot.pid ∘ Prod.snd) o := by
  intro o ho
  rcases List.mem_flatten.mp ho with ⟨list, hlist, hmem⟩
  rcases List.mem_map.mp hlist with ⟨tick, htick, rfl⟩
  exact (history.pid_eq tick htick o hmem).symm

/-- The per-PID totals never exceed what the instances used. -/
theorem pidTotal_le_lastTotal [CanonicallyOrderedAdd M] [IsOrderedCancelAddMonoid M]
    {history : ProcessHistory ι} {read : ProcessSnapshot → Option M}
    (hmono : history.NeverDecreases read) :
    history.pidTotal read ≤ history.lastTotal read := by
  rw [lastTotal, hmono.sumOfLast_eq]
  exact sumOfMaxima_key_le_owner history.pidOf_eq

/-- The per-PID totals count every instance exactly when no PID is shared by two
contributing instances. -/
theorem pidTotal_eq_lastTotal_iff [CanonicallyOrderedAdd M] [IsOrderedCancelAddMonoid M]
    {history : ProcessHistory ι} {read : ProcessSnapshot → Option M}
    (hmono : history.NeverDecreases read) :
    history.pidTotal read = history.lastTotal read ↔ history.NoSharedContribution read := by
  rw [lastTotal, hmono.sumOfLast_eq]
  exact sumOfMaxima_key_eq_owner_iff history.pidOf_eq

/-- Without shared PIDs no contribution is shared. -/
theorem PidsUnshared.noSharedContribution {history : ProcessHistory ι}
    (h : history.PidsUnshared) (read : ProcessSnapshot → Option M) :
    history.NoSharedContribution read := by
  intro i hi j hj hij hshare
  rcases List.mem_map.mp hi with ⟨o, ho, rfl⟩
  rcases List.mem_map.mp hj with ⟨p, hp, rfl⟩
  exact absurd (h o ho p hp hshare) hij

omit [DecidableEq ι] in
/-- Maxima over the sampled lists are maxima per PID. -/
theorem sumOfMaxima_sampled (history : ProcessHistory ι)
    (read : ProcessSnapshot → Option M) :
    sumOfMaxima ProcessSnapshot.pid read (tickLists history.sampled).flatten =
      history.pidTotal read := by
  rw [flatten_sampled, sumOfMaxima_map]
  rfl

/-! ## The aggregate, the trace and the truth -/

/-- The increments of the observed PIDs lie between the per-PID totals and what
the instances used. -/
theorem rise_between {history : ProcessHistory ι} {read : ProcessSnapshot → Option ℕ}
    (hmono : history.NeverDecreases read) :
    history.pidTotal read ≤
        rise ProcessSnapshot.pid read [] (tickLists history.sampled).flatten ∧
      rise ProcessSnapshot.pid read [] (tickLists history.sampled).flatten ≤
        history.lastTotal read := by
  constructor
  · rw [← sumOfMaxima_sampled]
    exact sumOfMaxima_le_rise _
  · rw [lastTotal, hmono.sumOfLast_eq, flatten_sampled]
    have hmap := rise_map ProcessSnapshot.pid read Prod.snd [] history.observations
    rw [List.map_nil] at hmap
    rw [hmap]
    exact rise_le_sumOfMaxima_owner history.pidOf_eq history.consecutive hmono

/-- The aggregate total of a metric is at most the sum of its deltas over the
trace, which is at most what the observed instances used, and all three agree
when no PID is reused and nothing overflows. -/
theorem deltas_between (history : ProcessHistory ι) (runningTime : Seconds)
    (m : DeltaMetric) (hmono : history.NeverDecreases (natReading m.read)) :
    let run := traceRun history.sampled
    let total := ((m.inRecord (run.state.intoRecord runningTime)).getD 0).toNat
    let deltas := deltaTotal m run.rows
    total ≤ deltas ∧ deltas ≤ history.lastTotal (natReading m.read) ∧
      (history.PidsUnshared → history.lastTotal (natReading m.read) < 2 ^ 64 →
        total = deltas ∧ deltas = history.lastTotal (natReading m.read)) := by
  intro run total deltas
  have htotal : total = min (history.pidTotal (natReading m.read)) u64Max := by
    have hrecord : total = ((counterTotal? m.read (tickLists history.sampled)).getD 0).toNat := by
      rw [← inRecord_aggregateRecord m _ runningTime, ← traceRun_intoRecord]
    rw [hrecord, counterTotal?, totalOfMaxima?_getD, toNat_clamp, sumOfMaxima_sampled]
  have hupper : deltas ≤ _ := deltaTotal_le_rise m history.sampled
  have hlower : _ ≤ deltas := clamp_rise_le_deltaTotal m history.sampled
  rcases rise_between hmono with ⟨hpid, hlast⟩
  refine ⟨?_, hupper.trans hlast, ?_⟩
  · rw [htotal]
    exact (min_le_min_right u64Max hpid).trans hlower
  · intro hunshared hbound
    have hequal : history.pidTotal (natReading m.read) = history.lastTotal (natReading m.read) :=
      (pidTotal_eq_lastTotal_iff hmono).mpr (hunshared.noSharedContribution _)
    have hmax : history.lastTotal (natReading m.read) ≤ u64Max :=
      Nat.le_sub_one_of_lt hbound
    rw [htotal]
    omega

/-! ## When the aggregate counts every instance -/

/-- The sum, over all observed instances, of the last value exposed by each, as
a saturating total that is absent when no instance exposed any. -/
def lastTotal? (history : ProcessHistory ι) (read : ProcessSnapshot → Option U64) :
    Option U64 :=
  if ∃ o ∈ history.observations, (read o.2).isSome then
    some (clamp (history.lastTotal (natReading read)))
  else none

/-- The record counts the usage of every instance, in every cumulative column. -/
def CountsEveryInstance (history : ProcessHistory ι) (record : BenchmarkRecord ℚ≥0) : Prop :=
  (∀ m : CounterMetric, m.Reports record (history.lastTotal? m.read)) ∧
    record.cpuTime = history.lastTotal cpuReading

/-- The column of a counter is right exactly when no PID is shared by two
contributing instances, or the per-PID total is already saturated. -/
theorem counterTotal?_eq_lastTotal?_iff {history : ProcessHistory ι}
    {read : ProcessSnapshot → Option U64}
    (hmono : history.NeverDecreases (natReading read)) :
    counterTotal? read (tickLists history.sampled) = history.lastTotal? read ↔
      history.NoSharedContribution (natReading read) ∨
        u64Max ≤ history.pidTotal (natReading read) := by
  have hle := pidTotal_le_lastTotal hmono
  have hexposed : (∃ snap ∈ (tickLists history.sampled).flatten, (read snap).isSome) ↔
      ∃ o ∈ history.observations, (read o.2).isSome := by
    simp only [flatten_sampled, List.mem_map, exists_exists_and_eq_and]
  rw [← pidTotal_eq_lastTotal_iff hmono, counterTotal?, totalOfMaxima?_eq, lastTotal?,
    sumOfMaxima_sampled]
  by_cases hsome : ∃ o ∈ history.observations, (read o.2).isSome
  · rw [if_pos (hexposed.mpr hsome), if_pos hsome, Option.some_inj, BoundedNat.ext_iff,
      toNat_clamp, toNat_clamp]
    omega
  · -- Nothing is exposed, so both columns are absent and both sums are zero.
    have hzero : history.lastTotal (natReading read) = 0 := by
      rw [lastTotal, hmono.sumOfLast_eq]
      apply Finset.sum_eq_zero
      intro i _
      apply Nat.le_zero.mp
      apply maxReading_le
      intro o ho _ v hread
      have hsome' : (read o.2).isSome := by
        rw [← natReading_isSome, show natReading read o.2 = some v from hread]
        rfl
      exact absurd ⟨o, ho, hsome'⟩ hsome
    rw [if_neg (mt hexposed.mp hsome), if_neg hsome]
    simp only [true_iff]
    omega

/-- The aggregate counts the usage of every observed instance exactly when, for
every counter, no PID was held by two instances that both contributed to it
(unless the per-PID total is saturated already), and no PID was held by two
instances that both used CPU. -/
theorem countsEveryInstance_iff (history : ProcessHistory ι) (runningTime : Seconds)
    (hcounters : ∀ m : CounterMetric, history.NeverDecreases (natReading m.read))
    (hcpu : history.NeverDecreases cpuReading) :
    history.CountsEveryInstance
        ((SamplerState.absorbAll (tickLists history.sampled)).intoRecord runningTime) ↔
      (∀ m : CounterMetric, history.NoSharedContribution (natReading m.read) ∨
          u64Max ≤ history.pidTotal (natReading m.read)) ∧
        history.NoSharedContribution cpuReading := by
  have hcpuColumn : cpuTotal (tickLists history.sampled) = history.pidTotal cpuReading :=
    sumOfMaxima_sampled history cpuReading
  rw [SamplerState.intoRecord_absorbAll_eq, CountsEveryInstance, cpuTime_aggregateRecord,
    hcpuColumn, pidTotal_eq_lastTotal_iff hcpu]
  apply and_congr_left
  intro _
  apply forall_congr'
  intro m
  rw [reports_aggregateRecord_iff, counterTotal?_eq_lastTotal?_iff (hcounters m)]

/-! ## Two instances, one after the other -/

/-- One instance is observed once, then another one twice. -/
def handover (first second : Pid) : ProcessHistory Bool where
  ticks :=
    [([(false, { pid := first, majorPageFaults := some (clamp 5), cpuTimeSeconds := 2 })], 1),
      ([(true, { pid := second, majorPageFaults := some (clamp 3), cpuTimeSeconds := 1 })], 2),
      ([(true, { pid := second, majorPageFaults := some (clamp 6), cpuTimeSeconds := 3 })], 3)]
  pidOf := fun i => if i then second else first
  pid_eq := by simp
  pids_nodup := by simp
  consecutive := by
    intro i j hij _
    cases i <;> cases j <;> simp at hij ⊢

/-- The counters of the handover never decrease. -/
theorem neverDecreases_handover (first second : Pid) (m : CounterMetric) :
    (handover first second).NeverDecreases (natReading m.read) := by
  have hmax : 3 ≤ u64Max := by decide
  intro i
  cases m <;> cases i <;>
    simp [handover, observations, readingsOf, natReading, CounterMetric.read,
      List.filterMap_cons, hmax]

theorem neverDecreases_cpu_handover (first second : Pid) :
    (handover first second).NeverDecreases cpuReading := by
  intro i
  cases i <;> simp [handover, observations, readingsOf, cpuReading]

/-- Different PIDs are not shared. -/
theorem pidsUnshared_handover : (handover 7 8).PidsUnshared := by
  simp [PidsUnshared, handover, observations]

/-- Under two PIDs the aggregate, the trace and the truth agree. -/
theorem deltas_agree_handover :
    let run := traceRun (handover 7 8).sampled
    ((run.state.intoRecord 4).majorPageFaults.getD 0).toNat =
        deltaTotal .majorPageFaults run.rows ∧
      deltaTotal .majorPageFaults run.rows = 11 := by
  have hagree := (deltas_between (handover 7 8) 4 .majorPageFaults
    (neverDecreases_handover 7 8 .majorPageFaults)).2.2 pidsUnshared_handover
    (by decide +kernel)
  refine ⟨hagree.1, hagree.2.trans ?_⟩
  decide +kernel

/-- Under two PIDs the aggregate counts both instances. -/
theorem countsEveryInstance_handover :
    (handover 7 8).CountsEveryInstance
      ((SamplerState.absorbAll (tickLists (handover 7 8).sampled)).intoRecord 4) :=
  (countsEveryInstance_iff (handover 7 8) 4 (neverDecreases_handover 7 8)
    (neverDecreases_cpu_handover 7 8)).mpr
    ⟨fun m => Or.inl (pidsUnshared_handover.noSharedContribution (natReading m.read)),
      pidsUnshared_handover.noSharedContribution cpuReading⟩

/-- Under one recycled PID the aggregate reports six faults out of eleven. -/
theorem handover_recycled_undercounts :
    (∀ m : CounterMetric, (handover 7 7).NeverDecreases (natReading m.read)) ∧
      (handover 7 7).NeverDecreases cpuReading ∧
      ¬(handover 7 7).CountsEveryInstance
        ((SamplerState.absorbAll (tickLists (handover 7 7).sampled)).intoRecord 4) := by
  refine ⟨neverDecreases_handover 7 7, neverDecreases_cpu_handover 7 7, ?_⟩
  intro hcounts
  have hfaults := hcounts.1 .majorPageFaults
  have hreported : ((SamplerState.absorbAll (tickLists (handover 7 7).sampled)).intoRecord
      4).majorPageFaults = some (clamp 6) := by decide +kernel
  have hused : (handover 7 7).lastTotal? CounterMetric.majorPageFaults.read =
      some (clamp 11) := by decide +kernel
  rw [CounterMetric.Reports, hreported, hused] at hfaults
  exact absurd hfaults (by decide)

/-- Under one recycled PID the trace lies strictly between the aggregate and the
truth. -/
example : deltaTotal .majorPageFaults (traceRun (handover 7 7).sampled).rows = 8 := by
  decide +kernel

end ProcessHistory

end Tricord
