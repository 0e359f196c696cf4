import Tricord.Sampler.Aggregate

/-!
# The trace of a run

With a working trace the sampler loop absorbs every sampled list and then ticks
on the same list.  This module describes one row, the rows of a run, and how
the rows relate to the final aggregate.

Main results:

- Theorem {lit}`SamplerState.tick_row`: what one row holds.
- Theorem {lit}`traceRun_state`: tracing leaves the aggregate untouched.
- Theorem {lit}`rows_map`: the rows of a run are, in order, the images of its
  non-empty ticks.
- Theorem {lit}`traceRun_agrees`: every column of the aggregate is determined by
  the rows.
-/

namespace Tricord

open BoundedNat KeyedAccumulation KeyedMaxima

/-! ## The delta readings of one tick -/

/-- The saturating differences that the delta loop adds, one for each snapshot
that exposes the counter. -/
def deltaReadings (m : DeltaMetric) :
    KeyMap Pid PrevCumulative → List ProcessSnapshot → List (Option U64)
  | _, [] => []
  | prev, snap :: snapshots =>
      (m.read snap).map (fun current =>
          current.saturatingSub (m.prev ((prev.lookup snap.pid).getD {}))) ::
        deltaReadings m (upsert prev snap.pid {} fun entry => entry.advance snap) snapshots

/-- A loop variable observes the readings of the tick. -/
theorem loopSum_foldl_add (m : DeltaMetric) (snapshots : List ProcessSnapshot)
    (acc : DeltaLoop) :
    m.loopSum (snapshots.foldl DeltaLoop.add acc) =
      (deltaReadings m acc.prevCumulative snapshots).foldl ExposedSum.observe
        (m.loopSum acc) := by
  induction snapshots generalizing acc with
  | nil => rfl
  | cons snap snapshots ih =>
      rw [List.foldl_cons, ih, m.loopSum_add, deltaReadings, List.foldl_cons]
      rfl

/-- A difference is present exactly when the counter is exposed. -/
theorem reduceOption_deltaReadings_eq_nil_iff (m : DeltaMetric)
    (prev : KeyMap Pid PrevCumulative) (snapshots : List ProcessSnapshot) :
    (deltaReadings m prev snapshots).reduceOption = [] ↔ snapshots.filterMap m.read = [] := by
  induction snapshots generalizing prev with
  | nil => rfl
  | cons snap snapshots ih =>
      cases hread : m.read snap with
      | none => simpa [deltaReadings, hread] using ih _
      | some v => simp [deltaReadings, hread]

/-! ## One row -/

/-- What the row of a non-empty tick holds, in terms of the state it is built
from. -/
structure IsRowOf (state : SamplerState) (snapshots : List ProcessSnapshot)
    (elapsed : Seconds) (row : TickRecord ℚ≥0) : Prop where
  elapsed_eq : row.elapsed = elapsed
  nProcs_eq : row.nProcs = snapshots.length
  size_eq : ∀ m : SizeMetric, m.inRow row = bytesToMib (m.tickSum snapshots)
  uss_eq : row.uss = (PeakMetric.uss.tickSum snapshots).map bytesToMib
  pss_eq : row.pss = (PeakMetric.pss.tickSum snapshots).map bytesToMib
  swap_eq : row.swap = (PeakMetric.swap.tickSum snapshots).map bytesToMib
  nThreads_eq : row.nThreads = PeakMetric.threads.tickSum snapshots
  ioIn_eq : row.ioIn =
    (CounterMetric.ioIn.total (cumulativeTotals (values state.perPid))).map bytesToMib
  ioOut_eq : row.ioOut =
    (CounterMetric.ioOut.total (cumulativeTotals (values state.perPid))).map bytesToMib
  cpuTime_eq : row.cpuTime = (cumulativeTotals (values state.perPid)).cpuTime
  delta_eq : ∀ m : DeltaMetric,
    m.inRow row = total? (deltaReadings m state.prevCumulative snapshots).reduceOption

/-- A non-empty tick yields a row, an empty one does not. -/
theorem SamplerState.tick_row (self : SamplerState) {snapshots : List ProcessSnapshot}
    (h : snapshots ≠ []) (elapsed : Seconds) :
    ∃ row, (self.tick snapshots elapsed).2 = some row ∧
      IsRowOf self snapshots elapsed row := by
  cases snapshots with
  | nil => exact absurd rfl h
  | cons snap snapshots =>
      refine ⟨_, rfl, ?_⟩
      have hdelta : ∀ m : DeltaMetric,
          (m.loopSum ((snap :: snapshots).foldl DeltaLoop.add
            { prevCumulative := self.prevCumulative })).result =
          total? (deltaReadings m self.prevCumulative (snap :: snapshots)).reduceOption := by
        intro m
        have hinit : m.loopSum { prevCumulative := self.prevCumulative } = {} := by
          cases m <;> rfl
        rw [loopSum_foldl_add, hinit, ExposedSum.result_foldl]
      constructor
      case size_eq => intro m; cases m <;> rfl
      case delta_eq => intro m; rw [← hdelta]; cases m <;> rfl
      all_goals rfl

@[simp]
theorem SamplerState.tick_nil (self : SamplerState) (elapsed : Seconds) :
    self.tick [] elapsed = (self, none) :=
  rfl

/-! ## Runs with a working trace -/

/-- The sampler state together with the rows written so far. -/
structure TraceRun where
  state : SamplerState := {}
  rows : List (TickRecord ℚ≥0) := []

/-- One turn of the sampler loop with a working trace. -/
def TraceRun.turn (run : TraceRun) (tick : Tick × Seconds) : TraceRun :=
  let state := run.state.absorb tick.1
  let (state, row) := state.tick tick.1 tick.2
  { state := state
    rows := run.rows ++ row.toList }

/-- A run of the sampler loop, each tick with its elapsed time. -/
def traceRun (ticks : List (Tick × Seconds)) : TraceRun :=
  ticks.foldl TraceRun.turn {}

/-- The sampled lists of a run. -/
abbrev tickLists (ticks : List (Tick × Seconds)) : List Tick :=
  ticks.map Prod.fst

/-- The state after a turn. -/
theorem TraceRun.state_turn (run : TraceRun) (tick : Tick × Seconds) :
    (run.turn tick).state = ((run.state.absorb tick.1).tick tick.1 tick.2).1 :=
  rfl

/-- The rows after a turn. -/
theorem TraceRun.rows_turn (run : TraceRun) (tick : Tick × Seconds) :
    (run.turn tick).rows =
      run.rows ++ ((run.state.absorb tick.1).tick tick.1 tick.2).2.toList :=
  rfl

/-- The last tick is one more turn. -/
theorem traceRun_snoc (ticks : List (Tick × Seconds)) (tick : Tick × Seconds) :
    traceRun (ticks ++ [tick]) = (traceRun ticks).turn tick := by
  simp [traceRun]

/-- Tracing advances the previous cumulative values and nothing else. -/
theorem traceRun_state (ticks : List (Tick × Seconds)) :
    (traceRun ticks).state =
      { SamplerState.absorbAll (tickLists ticks) with
        prevCumulative :=
          accumulate ProcessSnapshot.pid PrevCumulative.advance {} ∅
            (tickLists ticks).flatten } := by
  induction ticks using List.reverseRecOn with
  | nil => rfl
  | append_singleton ticks tick ih =>
      rw [traceRun_snoc, TraceRun.state_turn, ih, SamplerState.absorb_with_prevCumulative,
        SamplerState.tick_state, ← accumulate_append, tickLists, tickLists,
        List.map_append, List.flatten_append, List.map_singleton,
        SamplerState.absorbAll_snoc]
      simp

/-- Recording ticks does not touch what was absorbed per process. -/
theorem traceRun_perPid (ticks : List (Tick × Seconds)) :
    (traceRun ticks).state.perPid =
      (SamplerState.absorbAll (tickLists ticks)).perPid := by
  rw [traceRun_state]

/-- The previous values are those of all snapshots so far. -/
theorem traceRun_prevCumulative (ticks : List (Tick × Seconds)) :
    (traceRun ticks).state.prevCumulative =
      accumulate ProcessSnapshot.pid PrevCumulative.advance {} ∅
        (tickLists ticks).flatten := by
  rw [traceRun_state]

/-- The record of a traced run is the aggregate of its sampled lists. -/
theorem traceRun_intoRecord (ticks : List (Tick × Seconds)) (runningTime : Seconds) :
    (traceRun ticks).state.intoRecord runningTime =
      aggregateRecord (tickLists ticks) runningTime := by
  rw [← SamplerState.intoRecord_absorbAll_eq, traceRun_state]
  rfl

/-! ## The rows of a run -/

/-- The ticks that yield a row. -/
def sampledTicks (ticks : List (Tick × Seconds)) : List (Tick × Seconds) :=
  ticks.filter fun tick => !tick.1.isEmpty

/-- The sampled ticks are those with a process. -/
theorem mem_sampledTicks {ticks : List (Tick × Seconds)} {tick : Tick × Seconds} :
    tick ∈ sampledTicks ticks ↔ tick ∈ ticks ∧ tick.1 ≠ [] := by
  simp [sampledTicks]

/-- The state from which the row of a tick is built. -/
def stateAtRow (ticks : List (Tick × Seconds)) (tick : Tick × Seconds) : SamplerState :=
  (traceRun ticks).state.absorb tick.1

theorem rows_snoc_nil (ticks : List (Tick × Seconds)) (elapsed : Seconds) :
    (traceRun (ticks ++ [([], elapsed)])).rows = (traceRun ticks).rows := by
  rw [traceRun_snoc]
  simp [TraceRun.turn]

/-- A non-empty tick appends exactly one row. -/
theorem rows_snoc (ticks : List (Tick × Seconds)) {tick : Tick × Seconds}
    (h : tick.1 ≠ []) :
    ∃ row, (traceRun (ticks ++ [tick])).rows = (traceRun ticks).rows ++ [row] ∧
      IsRowOf (stateAtRow ticks tick) tick.1 tick.2 row := by
  rcases (stateAtRow ticks tick).tick_row h tick.2 with ⟨row, hrow, hspec⟩
  refine ⟨row, ?_, hspec⟩
  rw [traceRun_snoc, TraceRun.rows_turn, ← stateAtRow, hrow]
  rfl

/-- Induction over a run from its end, the empty ticks apart. -/
@[elab_as_elim]
theorem ticks_induction {P : List (Tick × Seconds) → Prop} (nil : P [])
    (empty : ∀ ticks elapsed, P ticks → P (ticks ++ [([], elapsed)]))
    (sampled : ∀ ticks tick, tick.1 ≠ [] → P ticks → P (ticks ++ [tick]))
    (ticks : List (Tick × Seconds)) : P ticks := by
  induction ticks using List.reverseRecOn with
  | nil => exact nil
  | append_singleton ticks tick ih =>
      by_cases hempty : tick.1 = []
      · rcases tick with ⟨snapshots, elapsed⟩
        subst hempty
        exact empty ticks elapsed ih
      · exact sampled ticks tick hempty ih

/-- Every row is built from a non-empty tick of the run. -/
theorem exists_isRowOf (ticks : List (Tick × Seconds)) :
    ∀ row ∈ (traceRun ticks).rows, ∃ state, ∃ tick ∈ sampledTicks ticks,
      IsRowOf state tick.1 tick.2 row := by
  have hgrow : ∀ (ticks : List (Tick × Seconds)) (last : Tick × Seconds) row,
      (∃ state, ∃ tick ∈ sampledTicks ticks, IsRowOf state tick.1 tick.2 row) →
      ∃ state, ∃ tick ∈ sampledTicks (ticks ++ [last]), IsRowOf state tick.1 tick.2 row := by
    rintro ticks last row ⟨state, tick, htick, hrow⟩
    refine ⟨state, tick, ?_, hrow⟩
    rw [sampledTicks, List.filter_append]
    exact List.mem_append_left _ htick
  induction ticks using ticks_induction with
  | nil => exact fun row hrow => absurd hrow List.not_mem_nil
  | empty ticks elapsed ih =>
      intro row hrow
      rw [rows_snoc_nil] at hrow
      exact hgrow _ _ _ (ih row hrow)
  | sampled ticks tick hne ih =>
      intro row hrow
      rcases rows_snoc ticks hne with ⟨last, hrows, hspec⟩
      rw [hrows, List.mem_append, List.mem_singleton] at hrow
      rcases hrow with hrow | rfl
      · exact hgrow _ _ _ (ih row hrow)
      · exact ⟨stateAtRow ticks tick, tick, mem_sampledTicks.mpr ⟨by simp, hne⟩, hspec⟩

/-- A column that depends on the tick alone is read off the non-empty ticks. -/
theorem rows_map {R : Type*} (column : TickRecord ℚ≥0 → R) (value : Tick × Seconds → R)
    (h : ∀ (state : SamplerState) (tick : Tick × Seconds) (row : TickRecord ℚ≥0),
      IsRowOf state tick.1 tick.2 row → column row = value tick)
    (ticks : List (Tick × Seconds)) :
    (traceRun ticks).rows.map column = (sampledTicks ticks).map value := by
  induction ticks using ticks_induction with
  | nil => rfl
  | empty ticks elapsed ih =>
      rw [rows_snoc_nil, ih]
      simp [sampledTicks]
  | sampled ticks tick hne ih =>
      rcases rows_snoc ticks hne with ⟨row, hrows, hspec⟩
      rw [hrows, List.map_append, ih, sampledTicks, sampledTicks, List.filter_append,
        List.map_append]
      simp [hne, h _ _ _ hspec]

/-- There is one row for each sampled tick. -/
theorem length_rows (ticks : List (Tick × Seconds)) :
    (traceRun ticks).rows.length = (sampledTicks ticks).length := by
  have hmap := rows_map TickRecord.elapsed Prod.snd (fun _ _ _ h => h.elapsed_eq) ticks
  simpa using congrArg List.length hmap

/-- There are no rows exactly when no tick was sampled. -/
theorem rows_eq_nil_iff (ticks : List (Tick × Seconds)) :
    (traceRun ticks).rows = [] ↔ sampledTicks ticks = [] := by
  rw [← List.length_eq_zero_iff, length_rows, List.length_eq_zero_iff]

/-- No tick was sampled exactly when all of them are empty. -/
theorem sampledTicks_eq_nil_iff (ticks : List (Tick × Seconds)) :
    sampledTicks ticks = [] ↔ ∀ tick ∈ tickLists ticks, tick = [] := by
  simp [sampledTicks, tickLists]

/-! ## Columns that are maxima over the rows -/

/-- More bytes are more MiB. -/
theorem bytesToMib_strictMono : StrictMono bytesToMib := by
  intro a b h
  have hlt : a.toNat < b.toNat := lt_of_not_ge fun hle => absurd h (not_lt.mpr hle)
  have hcast : (a.toNat : ℚ≥0) < b.toNat := Nat.cast_lt.mpr hlt
  exact div_lt_div_of_pos_right hcast (by norm_num)

/-- Empty ticks contribute nothing to a maximum that starts from the least
value. -/
theorem max?_getD_sampledTicks {M : Type*} [LinearOrder M] {z : M} (hz : ∀ a, z ≤ a)
    {f : Tick → M} (hnil : f [] = z) (ticks : List (Tick × Seconds)) :
    ((tickLists ticks).map f).max?.getD z =
      ((sampledTicks ticks).map fun tick => f tick.1).max?.getD z := by
  apply le_antisymm
  · apply max?_getD_le (hz _)
    intro v hv
    rcases List.mem_map.mp hv with ⟨snapshots, hmem, rfl⟩
    rcases List.mem_map.mp hmem with ⟨tick, htick, rfl⟩
    by_cases hempty : tick.1 = []
    · rw [hempty, hnil]
      exact hz _
    · exact le_max?_getD z (List.mem_map.mpr
        ⟨tick, mem_sampledTicks.mpr ⟨htick, hempty⟩, rfl⟩)
  · apply max?_getD_le (hz _)
    intro v hv
    rcases List.mem_map.mp hv with ⟨tick, htick, rfl⟩
    exact le_max?_getD z (List.mem_map.mpr
      ⟨tick.1, List.mem_map_of_mem (mem_sampledTicks.mp htick).1, rfl⟩)

/-- The peak of a size is the maximum of its column. -/
theorem peakOfSums_eq_max_rows (m : SizeMetric) {ticks : List (Tick × Seconds)}
    (hrows : (traceRun ticks).rows ≠ []) :
    some (bytesToMib (peakOfSums m.read (tickLists ticks))) =
      ((traceRun ticks).rows.map m.inRow).max? := by
  have hcolumn := rows_map m.inRow (fun tick => bytesToMib (m.tickSum tick.1))
    (fun _ _ _ h => h.size_eq m) ticks
  have hsum : peakOfSums m.read (tickLists ticks) =
      ((sampledTicks ticks).map fun tick => m.tickSum tick.1).max?.getD 0 := by
    rw [peakOfSums, ← funext m.tickSum_eq]
    exact max?_getD_sampledTicks BoundedNat.zero_le (by cases m <;> rfl) ticks
  have hne : ((sampledTicks ticks).map fun tick => m.tickSum tick.1) ≠ [] := by
    rw [ne_eq, List.map_eq_nil_iff, ← rows_eq_nil_iff]
    exact hrows
  rcases Option.isSome_iff_exists.mp (List.isSome_max?_of_ne_nil hne) with ⟨v, hv⟩
  have hmap := max?_map bytesToMib_strictMono.monotone
    ((sampledTicks ticks).map fun tick => m.tickSum tick.1)
  rw [List.map_map] at hmap
  rw [hcolumn, hsum, hv, show (fun tick : Tick × Seconds => bytesToMib (m.tickSum tick.1)) =
    bytesToMib ∘ fun tick => m.tickSum tick.1 from rfl, hmap, hv]
  rfl

/-- The peak of an optional metric is the maximum of the present values of its
column. -/
theorem peakOfSums?_eq_max_rows {R : Type*} [LinearOrder R] (m : PeakMetric) {f : U64 → R}
    (hf : Monotone f) (column : TickRecord ℚ≥0 → Option R)
    (h : ∀ (state : SamplerState) (tick : Tick × Seconds) (row : TickRecord ℚ≥0),
      IsRowOf state tick.1 tick.2 row → column row = (m.tickSum tick.1).map f)
    (ticks : List (Tick × Seconds)) :
    (peakOfSums? m.read (tickLists ticks)).map f =
      ((traceRun ticks).rows.filterMap column).max? := by
  have hsums : (sampledTicks ticks).filterMap (fun tick => m.tickSum tick.1) =
      (tickLists ticks).filterMap m.tickSum := by
    rw [sampledTicks, List.filterMap_filter, tickLists, List.filterMap_map]
    apply List.filterMap_congr
    intro tick _
    by_cases hempty : tick.1 = []
    · have hnone : m.tickSum [] = none := by cases m <;> rfl
      simp [hempty, hnone]
    · simp [hempty]
  have hcolumn : (traceRun ticks).rows.filterMap column =
      ((tickLists ticks).filterMap m.tickSum).map f := by
    rw [← reduceOption_map, rows_map column _ h, reduceOption_map, ← List.map_filterMap,
      hsums]
  rw [hcolumn, max?_map hf, peakOfSums?, ← funext m.tickSum_eq]

/-- The longest tick is the largest number of processes of a row. -/
theorem peakLength_eq_max_rows (ticks : List (Tick × Seconds)) :
    peakLength (tickLists ticks) =
      ((traceRun ticks).rows.map TickRecord.nProcs).max?.getD 0 := by
  rw [rows_map TickRecord.nProcs (fun tick => tick.1.length) (fun _ _ _ h => h.nProcs_eq)]
  exact max?_getD_sampledTicks Nat.zero_le rfl ticks

/-- A total is absent exactly when the delta is absent from every row. -/
theorem counterTotal?_eq_none_iff_rows (m : DeltaMetric) (ticks : List (Tick × Seconds)) :
    counterTotal? m.read (tickLists ticks) = none ↔
      ∀ row ∈ (traceRun ticks).rows, m.inRow row = none := by
  have hcolumn := rows_map (fun row => m.inRow row = none)
    (fun tick => tick.1.filterMap m.read = []) (fun state tick row h => by
      rw [h.delta_eq m, total?_eq_none_iff, reduceOption_deltaReadings_eq_nil_iff]) ticks
  have hrows : (∀ row ∈ (traceRun ticks).rows, m.inRow row = none) ↔
      ∀ tick ∈ sampledTicks ticks, tick.1.filterMap m.read = [] := by
    have hall := congrArg (fun columns : List Prop => ∀ p ∈ columns, p) hcolumn
    simp only [List.forall_mem_map] at hall
    exact iff_of_eq hall
  rw [hrows, ← Option.not_isSome_iff_eq_none, counterTotal?_isSome_iff]
  simp only [List.filterMap_eq_nil_iff]
  constructor
  · intro hnone tick htick snap hsnap
    by_contra hread
    exact hnone ⟨tick.1, List.mem_map_of_mem (mem_sampledTicks.mp htick).1, snap, hsnap,
      Option.isSome_iff_ne_none.mpr hread⟩
  · rintro hall ⟨snapshots, hmem, snap, hsnap, hread⟩
    rcases List.mem_map.mp hmem with ⟨tick, htick, rfl⟩
    have hsampled : tick ∈ sampledTicks ticks :=
      mem_sampledTicks.mpr ⟨htick, List.ne_nil_of_mem hsnap⟩
    rw [hall tick hsampled snap hsnap] at hread
    exact absurd hread (by simp)

/-! ## Columns that accumulate over the rows -/

/-- The columns that never go down along the trace. -/
structure RunTotals where
  ioIn : Option ℚ≥0
  ioOut : Option ℚ≥0
  cpuTime : Seconds

/-- Column-wise order, an absent value below every present one. -/
def RunTotals.Le (a b : RunTotals) : Prop :=
  a.ioIn ≤ b.ioIn ∧ a.ioOut ≤ b.ioOut ∧ a.cpuTime ≤ b.cpuTime

/-- The accumulated columns of a row. -/
def rowTotals (row : TickRecord ℚ≥0) : RunTotals where
  ioIn := row.ioIn
  ioOut := row.ioOut
  cpuTime := row.cpuTime

/-- The accumulated columns of a run. -/
def runTotals (ticks : List Tick) : RunTotals where
  ioIn := (counterTotal? ProcessSnapshot.ioReadBytes ticks).map bytesToMib
  ioOut := (counterTotal? ProcessSnapshot.ioWriteBytes ticks).map bytesToMib
  cpuTime := cpuTotal ticks

/-- Mapping a monotone function over optional values is monotone. -/
theorem option_map_mono {α β : Type*} [Preorder α] [Preorder β] {f : α → β} (hf : Monotone f)
    {a b : Option α} (h : a ≤ b) : a.map f ≤ b.map f := by
  cases a with
  | none => exact Option.none_le
  | some v =>
      cases b with
      | none => exact absurd h (by simp)
      | some w => exact Option.some_le_some.mpr (hf (Option.some_le_some.mp h))

/-- A run that observes more has larger accumulated columns. -/
theorem runTotals_mono {xs ys : List Tick} (h : ∀ snap ∈ xs.flatten, snap ∈ ys.flatten) :
    (runTotals xs).Le (runTotals ys) :=
  ⟨option_map_mono bytesToMib_strictMono.monotone (totalOfMaxima?_mono h),
    option_map_mono bytesToMib_strictMono.monotone (totalOfMaxima?_mono h),
    sumOfMaxima_mono h⟩

/-- The row of a tick carries the accumulated columns up to and including it. -/
theorem rowTotals_eq {ticks : List (Tick × Seconds)} {tick : Tick × Seconds}
    {row : TickRecord ℚ≥0} (h : IsRowOf (stateAtRow ticks tick) tick.1 tick.2 row) :
    rowTotals row = runTotals (tickLists (ticks ++ [tick])) := by
  have hperPid : (stateAtRow ticks tick).perPid =
      (SamplerState.absorbAll (tickLists (ticks ++ [tick]))).perPid := by
    rw [stateAtRow, SamplerState.perPid_absorb, traceRun_perPid, tickLists, tickLists,
      List.map_append, List.map_singleton, SamplerState.absorbAll_snoc,
      SamplerState.perPid_absorb]
  rw [rowTotals, h.ioIn_eq, h.ioOut_eq, h.cpuTime_eq, hperPid,
    SamplerState.total_absorbAll, SamplerState.total_absorbAll,
    SamplerState.cpuTime_absorbAll]
  rfl

theorem runTotals_snoc_nil (ticks : List (Tick × Seconds)) (elapsed : Seconds) :
    runTotals (tickLists (ticks ++ [([], elapsed)])) = runTotals (tickLists ticks) := by
  simp [runTotals, counterTotal?, cpuTotal, tickLists]

/-- The last row carries the accumulated columns of the whole run. -/
theorem rowTotals_getLast (ticks : List (Tick × Seconds)) {row : TickRecord ℚ≥0}
    (hlast : (traceRun ticks).rows.getLast? = some row) :
    rowTotals row = runTotals (tickLists ticks) := by
  induction ticks using ticks_induction with
  | nil => simp [traceRun] at hlast
  | empty ticks elapsed ih =>
      rw [rows_snoc_nil] at hlast
      rw [runTotals_snoc_nil, ih hlast]
  | sampled ticks tick hne ih =>
      rcases rows_snoc ticks hne with ⟨last, hrows, hspec⟩
      rw [hrows, List.getLast?_append] at hlast
      have hrow : last = row := by simpa using hlast
      rw [← hrow, rowTotals_eq hspec]

/-- Every row carries the accumulated columns of some prefix of the run. -/
theorem exists_prefix_rowTotals (ticks : List (Tick × Seconds)) {row : TickRecord ℚ≥0}
    (hrow : row ∈ (traceRun ticks).rows) :
    ∃ before, before <+: ticks ∧ rowTotals row = runTotals (tickLists before) := by
  induction ticks using ticks_induction with
  | nil => simp [traceRun] at hrow
  | empty ticks elapsed ih =>
      rw [rows_snoc_nil] at hrow
      rcases ih hrow with ⟨before, hbefore, htotals⟩
      exact ⟨before, hbefore.trans (List.prefix_append _ _), htotals⟩
  | sampled ticks tick hne ih =>
      rcases rows_snoc ticks hne with ⟨last, hrows, hspec⟩
      rw [hrows, List.mem_append, List.mem_singleton] at hrow
      rcases hrow with hmem | rfl
      · rcases ih hmem with ⟨before, hbefore, htotals⟩
        exact ⟨before, hbefore.trans (List.prefix_append _ _), htotals⟩
      · exact ⟨_, List.prefix_rfl, rowTotals_eq hspec⟩

/-- An initial part of a run has fewer snapshots. -/
theorem prefix_mem_flatten {xs ys : List (Tick × Seconds)} (h : xs <+: ys) :
    ∀ snap ∈ (tickLists xs).flatten, snap ∈ (tickLists ys).flatten := by
  rcases h with ⟨rest, rfl⟩
  intro snap hsnap
  rw [tickLists, List.map_append, List.flatten_append]
  exact List.mem_append_left _ hsnap

/-- Along the trace the accumulated columns never go down nor vanish. -/
theorem rows_pairwise_le (ticks : List (Tick × Seconds)) :
    (traceRun ticks).rows.Pairwise fun a b => (rowTotals a).Le (rowTotals b) := by
  induction ticks using ticks_induction with
  | nil => exact List.Pairwise.nil
  | empty ticks elapsed ih =>
      rw [rows_snoc_nil]
      exact ih
  | sampled ticks tick hne ih =>
      rcases rows_snoc ticks hne with ⟨last, hrows, hspec⟩
      rw [hrows, List.pairwise_append]
      refine ⟨ih, List.pairwise_singleton _ _, ?_⟩
      intro row hrow other hother
      rcases exists_prefix_rowTotals ticks hrow with ⟨before, hbefore, htotals⟩
      rw [List.mem_singleton.mp hother, htotals, rowTotals_eq hspec]
      exact runTotals_mono (prefix_mem_flatten
        (hbefore.trans (List.prefix_append _ _)))

/-! ## The trace and the aggregate -/

/-- No data was collected exactly when there is no row. -/
theorem dataCollected_aggregateRecord_iff (ticks : List (Tick × Seconds))
    (runningTime : Seconds) :
    (aggregateRecord (tickLists ticks) runningTime).dataCollected = false ↔
      (traceRun ticks).rows = [] := by
  rw [rows_eq_nil_iff, sampledTicks_eq_nil_iff, aggregateRecord]
  split_ifs with hempty
  · simpa using hempty
  · simpa using hempty

/-- The trace and the aggregate tell the same story: one row for each non-empty
tick, in order, and every column of the record is determined by the rows. -/
theorem traceRun_agrees (ticks : List (Tick × Seconds)) (runningTime : Seconds) :
    let rows := (traceRun ticks).rows
    let record := (traceRun ticks).state.intoRecord runningTime
    rows.map (fun row => (row.elapsed, row.nProcs)) =
        (ticks.filter fun tick => !tick.1.isEmpty).map
          (fun tick => (tick.2, tick.1.length)) ∧
      (rows = [] ↔ record.dataCollected = false) ∧
      (record.dataCollected = true →
        (record.maxRss = (rows.map TickRecord.rss).max? ∧
          record.maxVms = (rows.map TickRecord.vms).max? ∧
          record.peakNProcs = (rows.map TickRecord.nProcs).max?.getD 0) ∧
        (record.maxUss = (rows.filterMap TickRecord.uss).max? ∧
          record.maxPss = (rows.filterMap TickRecord.pss).max? ∧
          record.maxSwap = (rows.filterMap TickRecord.swap).max? ∧
          record.peakNThreads = (rows.filterMap TickRecord.nThreads).max?) ∧
        (∃ last, rows.getLast? = some last ∧ record.ioIn = last.ioIn ∧
          record.ioOut = last.ioOut ∧ record.cpuTime = last.cpuTime) ∧
        (∀ m : DeltaMetric,
          m.inRecord record = none ↔ ∀ row ∈ rows, m.inRow row = none) ∧
        rows.Pairwise fun a b =>
          a.ioIn ≤ b.ioIn ∧ a.ioOut ≤ b.ioOut ∧ a.cpuTime ≤ b.cpuTime) := by
  intro rows record
  have hrecord : record = aggregateRecord (tickLists ticks) runningTime :=
    traceRun_intoRecord ticks runningTime
  refine ⟨?_, ?_, ?_⟩
  · exact rows_map _ _ (fun _ _ _ h => by rw [h.elapsed_eq, h.nProcs_eq]) ticks
  · rw [hrecord]
    exact (dataCollected_aggregateRecord_iff ticks runningTime).symm
  · intro hdata
    have hrows : rows ≠ [] := by
      intro hnil
      rw [hrecord, (dataCollected_aggregateRecord_iff ticks runningTime).mpr hnil] at hdata
      exact absurd hdata (by simp)
    have hne : ¬∀ tick ∈ tickLists ticks, tick = [] := by
      rw [← sampledTicks_eq_nil_iff, ← rows_eq_nil_iff]
      exact hrows
    rcases Option.isSome_iff_exists.mp (List.getLast?_isSome.mpr hrows) with ⟨last, hlast⟩
    have htotals := rowTotals_getLast ticks hlast
    rw [hrecord]
    simp only [aggregateRecord, if_neg hne]
    refine ⟨⟨?_, ?_, ?_⟩, ⟨?_, ?_, ?_, ?_⟩, ⟨last, hlast, ?_, ?_, ?_⟩, ?_, ?_⟩
    · exact peakOfSums_eq_max_rows .rss hrows
    · exact peakOfSums_eq_max_rows .vms hrows
    · exact peakLength_eq_max_rows ticks
    · exact peakOfSums?_eq_max_rows .uss bytesToMib_strictMono.monotone
        TickRecord.uss (fun _ _ _ h => h.uss_eq) ticks
    · exact peakOfSums?_eq_max_rows .pss bytesToMib_strictMono.monotone
        TickRecord.pss (fun _ _ _ h => h.pss_eq) ticks
    · exact peakOfSums?_eq_max_rows .swap bytesToMib_strictMono.monotone
        TickRecord.swap (fun _ _ _ h => h.swap_eq) ticks
    · have hthreads := peakOfSums?_eq_max_rows .threads monotone_id TickRecord.nThreads
        (fun _ _ _ h => by rw [h.nThreads_eq, Option.map_id]; rfl) ticks
      rwa [Option.map_id] at hthreads
    · exact (congrArg RunTotals.ioIn htotals).symm
    · exact (congrArg RunTotals.ioOut htotals).symm
    · exact (congrArg RunTotals.cpuTime htotals).symm
    · intro m
      rw [← counterTotal?_eq_none_iff_rows m ticks]
      cases m <;> rfl
    · exact rows_pairwise_le ticks

end Tricord
