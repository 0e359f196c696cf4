import Tricord.Sampler.Trace

/-!
# Which columns a run fills

A platform decides which readings a snapshot has.  This module carries such
decisions through a whole run: a column of the trace or of the record is filled
exactly when a snapshot it covers exposes the metric.

Main results:

- Theorem {lit}`OptionalColumn.inRow_iff`: when a row fills a column.
- Theorem {lit}`OptionalColumn.inRecord_iff`: when the record fills it.
- Theorem {lit}`OptionalColumn.inRow_mono`: a column that is exposed wherever
  another one is stays filled wherever the other one is.
-/

namespace Tricord

open BoundedNat KeyedAccumulation

/-- The columns that a platform may leave out. -/
inductive OptionalColumn
  | peak (m : PeakMetric)
  | counter (m : CounterMetric)
deriving DecidableEq

namespace OptionalColumn

/-- What a snapshot exposes for the column. -/
def read : OptionalColumn → ProcessSnapshot → Option U64
  | peak m => m.read
  | counter m => m.read

/-- The row has a value in this column. -/
def inRow : OptionalColumn → TickRecord ℚ≥0 → Bool
  | peak .uss, row => row.uss.isSome
  | peak .pss, row => row.pss.isSome
  | peak .swap, row => row.swap.isSome
  | peak .threads, row => row.nThreads.isSome
  | counter .ioIn, row => row.ioIn.isSome
  | counter .ioOut, row => row.ioOut.isSome
  | counter .majorPageFaults, row => row.majorPageFaults.isSome
  | counter .minorPageFaults, row => row.minorPageFaults.isSome
  | counter .voluntaryCtxSwitches, row => row.voluntaryCtxSwitches.isSome
  | counter .involuntaryCtxSwitches, row => row.involuntaryCtxSwitches.isSome

/-- The record has a value in this column. -/
def inRecord : OptionalColumn → BenchmarkRecord ℚ≥0 → Bool
  | peak .uss, record => record.maxUss.isSome
  | peak .pss, record => record.maxPss.isSome
  | peak .swap, record => record.maxSwap.isSome
  | peak .threads, record => record.peakNThreads.isSome
  | counter .ioIn, record => record.ioIn.isSome
  | counter .ioOut, record => record.ioOut.isSome
  | counter .majorPageFaults, record => record.majorPageFaults.isSome
  | counter .minorPageFaults, record => record.minorPageFaults.isSome
  | counter .voluntaryCtxSwitches, record => record.voluntaryCtxSwitches.isSome
  | counter .involuntaryCtxSwitches, record => record.involuntaryCtxSwitches.isSome

/-- The trace has the I/O of the whole run so far and the rest tick by tick. -/
def cumulative : OptionalColumn → Bool
  | counter .ioIn => true
  | counter .ioOut => true
  | _ => false

/-- The snapshots that a row covers in this column. -/
def covered (c : OptionalColumn) (before : List Tick) (tick : Tick) : List ProcessSnapshot :=
  if c.cumulative then before.flatten ++ tick else tick

/-- A value that is not there is {lit}`none`. -/
theorem eq_none_of_isSome_eq_false {R : Type*} {value : Option R} (h : value.isSome = false) :
    value = none :=
  Option.not_isSome_iff_eq_none.mp (Bool.eq_false_iff.mp h)

/-! ## Rows -/

/-- A tick has a total when one of its snapshots exposes the metric. -/
theorem total?_filterMap_isSome_iff {read : ProcessSnapshot → Option U64} {tick : Tick} :
    (total? (tick.filterMap read)).isSome ↔ ∃ snap ∈ tick, (read snap).isSome := by
  rw [Option.isSome_iff_ne_none, ne_eq, total?_eq_none_iff, List.filterMap_eq_nil_iff]
  push Not
  simp only [Option.isSome_iff_ne_none]

/-- A delta is in the row exactly when a snapshot of the tick exposes the counter. -/
theorem delta_isSome_iff {state : SamplerState} {tick : Tick} {elapsed : Seconds}
    {row : TickRecord ℚ≥0} (h : IsRowOf state tick elapsed row) (m : DeltaMetric) :
    (m.inRow row).isSome ↔ ∃ snap ∈ tick, (m.read snap).isSome := by
  rw [← total?_filterMap_isSome_iff, h.delta_eq m, Option.isSome_iff_ne_none,
    Option.isSome_iff_ne_none, ne_eq, ne_eq, total?_eq_none_iff, total?_eq_none_iff,
    reduceOption_deltaReadings_eq_nil_iff]

/-- The totals behind a row are those of all ticks up to this one. -/
theorem total_stateAtRow (m : CounterMetric) (before : List (Tick × Seconds))
    (tick : Tick × Seconds) :
    m.total (cumulativeTotals (values (stateAtRow before tick).perPid)) =
      counterTotal? m.read (tickLists (before ++ [tick])) := by
  have hperPid : (stateAtRow before tick).perPid =
      (SamplerState.absorbAll (tickLists (before ++ [tick]))).perPid := by
    rw [stateAtRow, SamplerState.perPid_absorb, traceRun_perPid, tickLists, tickLists,
      List.map_append, List.map_singleton, SamplerState.absorbAll_snoc,
      SamplerState.perPid_absorb]
  rw [hperPid, SamplerState.total_absorbAll]

/-- A total up to a tick is there when a snapshot so far exposes the metric. -/
theorem counterTotal?_snoc_isSome_iff {read : ProcessSnapshot → Option U64}
    {before : List (Tick × Seconds)} {tick : Tick × Seconds} :
    (counterTotal? read (tickLists (before ++ [tick]))).isSome ↔
      ∃ snap ∈ (tickLists before).flatten ++ tick.1, (read snap).isSome := by
  rw [counterTotal?, KeyedMaxima.totalOfMaxima?_isSome_iff]
  simp

/-- A row fills a column exactly when a snapshot it covers exposes the metric. -/
theorem inRow_iff (c : OptionalColumn) {before : List (Tick × Seconds)}
    {tick : Tick × Seconds} {row : TickRecord ℚ≥0}
    (h : IsRowOf (stateAtRow before tick) tick.1 tick.2 row) :
    c.inRow row ↔ ∃ snap ∈ c.covered (tickLists before) tick.1, (c.read snap).isSome := by
  have hpeak : ∀ m : PeakMetric, (m.tickSum tick.1).isSome ↔
      ∃ snap ∈ tick.1, (m.read snap).isSome := by
    intro m
    rw [m.tickSum_eq]
    exact total?_filterMap_isSome_iff
  cases c with
  | peak m =>
      cases m with
      | uss =>
          rw [inRow, h.uss_eq, Option.isSome_map]
          exact hpeak .uss
      | pss =>
          rw [inRow, h.pss_eq, Option.isSome_map]
          exact hpeak .pss
      | swap =>
          rw [inRow, h.swap_eq, Option.isSome_map]
          exact hpeak .swap
      | threads =>
          rw [inRow, h.nThreads_eq]
          exact hpeak .threads
  | counter m =>
      cases m with
      | ioIn =>
          rw [inRow, h.ioIn_eq, Option.isSome_map, total_stateAtRow]
          exact counterTotal?_snoc_isSome_iff
      | ioOut =>
          rw [inRow, h.ioOut_eq, Option.isSome_map, total_stateAtRow]
          exact counterTotal?_snoc_isSome_iff
      | majorPageFaults => exact delta_isSome_iff h .majorPageFaults
      | minorPageFaults => exact delta_isSome_iff h .minorPageFaults
      | voluntaryCtxSwitches => exact delta_isSome_iff h .voluntaryCtxSwitches
      | involuntaryCtxSwitches => exact delta_isSome_iff h .involuntaryCtxSwitches

/-- Every row is built from a non-empty tick and the run before it. -/
theorem exists_covered (ticks : List (Tick × Seconds)) :
    ∀ row ∈ (traceRun ticks).rows, ∃ before tick, before ++ [tick] <+: ticks ∧ tick.1 ≠ [] ∧
      IsRowOf (stateAtRow before tick) tick.1 tick.2 row := by
  induction ticks using ticks_induction with
  | nil => exact fun row hrow => absurd hrow List.not_mem_nil
  | empty ticks elapsed ih =>
      intro row hrow
      rw [rows_snoc_nil] at hrow
      rcases ih row hrow with ⟨before, tick, hbefore, hspec⟩
      exact ⟨before, tick, hbefore.trans (List.prefix_append _ _), hspec⟩
  | sampled ticks last hne ih =>
      intro row hrow
      rcases rows_snoc ticks hne with ⟨lastRow, hrows, hspec⟩
      rw [hrows, List.mem_append, List.mem_singleton] at hrow
      rcases hrow with hrow | rfl
      · rcases ih row hrow with ⟨before, tick, hbefore, htick⟩
        exact ⟨before, tick, hbefore.trans (List.prefix_append _ _), htick⟩
      · exact ⟨ticks, last, List.prefix_rfl, hne, hspec⟩

/-- The snapshots that a row covers are snapshots of the run. -/
theorem mem_of_covered {c : OptionalColumn} {before ticks : List (Tick × Seconds)}
    {tick : Tick × Seconds} (h : before ++ [tick] <+: ticks) :
    ∀ snap ∈ c.covered (tickLists before) tick.1, snap ∈ (tickLists ticks).flatten := by
  have hall := prefix_mem_flatten h
  intro snap hsnap
  apply hall
  rw [tickLists, List.map_append, List.flatten_append, List.mem_append]
  unfold covered at hsnap
  split_ifs at hsnap with hcumulative
  · simpa using hsnap
  · exact Or.inr (by simpa using hsnap)

/-! ## The record -/

/-- The record fills a column exactly when some snapshot of the run exposes the
metric. -/
theorem inRecord_iff (c : OptionalColumn) (ticks : List Tick) (runningTime : Seconds) :
    c.inRecord (aggregateRecord ticks runningTime) ↔
      ∃ snap ∈ ticks.flatten, (c.read snap).isSome := by
  have hflatten : (∃ snap ∈ ticks.flatten, (c.read snap).isSome) ↔
      ∃ tick ∈ ticks, ∃ snap ∈ tick, (c.read snap).isSome := by
    simp only [List.mem_flatten]
    constructor
    · rintro ⟨snap, ⟨tick, htick, hsnap⟩, hread⟩
      exact ⟨tick, htick, snap, hsnap, hread⟩
    · rintro ⟨tick, htick, snap, hsnap, hread⟩
      exact ⟨snap, ⟨tick, htick, hsnap⟩, hread⟩
  rw [hflatten, aggregateRecord]
  by_cases hempty : ∀ tick ∈ ticks, tick = []
  · rw [if_pos hempty]
    have hnone : ¬∃ tick ∈ ticks, ∃ snap ∈ tick, (c.read snap).isSome := by
      rintro ⟨tick, htick, snap, hsnap, _⟩
      rw [hempty tick htick] at hsnap
      exact absurd hsnap List.not_mem_nil
    rw [iff_false_right hnone]
    cases c with
    | peak m => cases m <;> exact Bool.false_ne_true
    | counter m => cases m <;> exact Bool.false_ne_true
  · rw [if_neg hempty]
    cases c with
    | peak m =>
        cases m with
        | threads => exact peakOfSums?_isSome_iff
        | _ =>
            simp only [inRecord, Option.isSome_map]
            exact peakOfSums?_isSome_iff
    | counter m =>
        cases m with
        | ioIn =>
            simp only [inRecord, Option.isSome_map]
            exact counterTotal?_isSome_iff
        | ioOut =>
            simp only [inRecord, Option.isSome_map]
            exact counterTotal?_isSome_iff
        | _ => exact counterTotal?_isSome_iff

/-! ## Rules for whole runs -/

/-- A metric that no snapshot exposes has an empty column. -/
theorem inRow_of_never (c : OptionalColumn) {ticks : List (Tick × Seconds)}
    (h : ∀ snap ∈ (tickLists ticks).flatten, c.read snap = none) :
    ∀ row ∈ (traceRun ticks).rows, c.inRow row = false := by
  intro row hrow
  rcases exists_covered ticks row hrow with ⟨before, tick, hbefore, _, hspec⟩
  rw [Bool.eq_false_iff, ne_eq, c.inRow_iff hspec]
  rintro ⟨snap, hsnap, hread⟩
  rw [h snap (mem_of_covered hbefore snap hsnap)] at hread
  exact absurd hread (by simp)

/-- A column that no snapshot of the run exposes is empty in the record. -/
theorem inRecord_of_never (c : OptionalColumn) {ticks : List Tick} (runningTime : Seconds)
    (h : ∀ snap ∈ ticks.flatten, c.read snap = none) :
    c.inRecord (aggregateRecord ticks runningTime) = false := by
  rw [Bool.eq_false_iff, ne_eq, c.inRecord_iff]
  rintro ⟨snap, hsnap, hread⟩
  rw [h snap hsnap] at hread
  exact absurd hread (by simp)

/-- A metric that every snapshot exposes has a column without gaps. -/
theorem inRow_of_always (c : OptionalColumn) {ticks : List (Tick × Seconds)}
    (h : ∀ snap ∈ (tickLists ticks).flatten, (c.read snap).isSome) :
    ∀ row ∈ (traceRun ticks).rows, c.inRow row = true := by
  intro row hrow
  rcases exists_covered ticks row hrow with ⟨before, tick, hbefore, hne, hspec⟩
  rcases List.exists_mem_of_ne_nil _ hne with ⟨snap, hsnap⟩
  have hcovered : snap ∈ c.covered (tickLists before) tick.1 := by
    unfold covered
    split_ifs
    · exact List.mem_append_right _ hsnap
    · exact hsnap
  exact (c.inRow_iff hspec).mpr ⟨snap, hcovered, h snap (mem_of_covered hbefore snap hcovered)⟩

/-- A column that every snapshot exposes is filled once data was collected. -/
theorem inRecord_of_always (c : OptionalColumn) {ticks : List Tick} (runningTime : Seconds)
    (h : ∀ snap ∈ ticks.flatten, (c.read snap).isSome)
    (hdata : (aggregateRecord ticks runningTime).dataCollected = true) :
    c.inRecord (aggregateRecord ticks runningTime) = true := by
  have hne : ticks.flatten ≠ [] := by
    intro hnil
    rw [aggregateRecord, if_pos (List.flatten_eq_nil_iff.mp hnil)] at hdata
    exact absurd hdata (by simp)
  rcases List.exists_mem_of_ne_nil _ hne with ⟨snap, hsnap⟩
  exact (c.inRecord_iff ticks runningTime).mpr ⟨snap, hsnap, h snap hsnap⟩

/-- A metric exposed wherever another one is has a column filled wherever the other
one is, provided it looks as far back. -/
theorem inRow_mono {c c' : OptionalColumn} {ticks : List (Tick × Seconds)}
    (hback : c.cumulative → c'.cumulative)
    (h : ∀ snap ∈ (tickLists ticks).flatten, (c.read snap).isSome → (c'.read snap).isSome) :
    ∀ row ∈ (traceRun ticks).rows, c.inRow row → c'.inRow row := by
  intro row hrow hfilled
  rcases exists_covered ticks row hrow with ⟨before, tick, hbefore, _, hspec⟩
  rcases (c.inRow_iff hspec).mp hfilled with ⟨snap, hsnap, hread⟩
  refine (c'.inRow_iff hspec).mpr
    ⟨snap, ?_, h snap (mem_of_covered hbefore snap hsnap) hread⟩
  unfold covered at hsnap ⊢
  split_ifs at hsnap with hcumulative
  · rwa [if_pos (hback hcumulative)]
  · split_ifs
    · exact List.mem_append_right _ hsnap
    · exact hsnap

/-- A column is filled whenever one exposed by fewer snapshots is. -/
theorem inRecord_mono {c c' : OptionalColumn} {ticks : List Tick} (runningTime : Seconds)
    (h : ∀ snap ∈ ticks.flatten, (c.read snap).isSome → (c'.read snap).isSome) :
    c.inRecord (aggregateRecord ticks runningTime) →
      c'.inRecord (aggregateRecord ticks runningTime) := by
  rw [c.inRecord_iff, c'.inRecord_iff]
  rintro ⟨snap, hsnap, hread⟩
  exact ⟨snap, hsnap, h snap hsnap hread⟩

end OptionalColumn

end Tricord
