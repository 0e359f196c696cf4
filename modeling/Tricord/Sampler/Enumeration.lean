import Tricord.Sampler.Trace

/-!
# Results do not depend on enumeration order

The processes of a tick are listed in no particular order and the map of
accumulators is iterated in no particular order, both different from tick to
tick.  This module lets both orders vary freely and proves that neither the rows
nor the record depend on them, as long as the PIDs of each tick are distinct.

Main results:

- Theorem {lit}`SameState.absorb` and {lit}`SameState.tick`: one call on the same
  snapshots in another order.
- Theorem {lit}`enumeration_independent`: any two enumerations of a run give the
  same rows and the same record.
-/

namespace Tricord

open BoundedNat KeyedAccumulation

/-! ## Sums over the snapshots of one tick -/

section Perm

variable {xs ys : List ProcessSnapshot}

/-- The sum of a size does not depend on the order of the processes. -/
theorem SizeMetric.tickSum_perm (m : SizeMetric) (h : xs.Perm ys) :
    m.tickSum xs = m.tickSum ys := by
  rw [m.tickSum_eq, m.tickSum_eq, total_perm (h.map m.read)]

/-- The sum of an optional metric does not depend on the order of the processes. -/
theorem PeakMetric.tickSum_perm (m : PeakMetric) (h : xs.Perm ys) :
    m.tickSum xs = m.tickSum ys := by
  rw [m.tickSum_eq, m.tickSum_eq, total?_perm (h.filterMap m.read)]

/-- The cumulative totals do not depend on the order of iteration. -/
theorem CounterMetric.total_perm (m : CounterMetric) {accums accums' : List ProcessAccum}
    (h : accums.Perm accums') :
    m.total (cumulativeTotals accums) = m.total (cumulativeTotals accums') := by
  rw [m.total_cumulativeTotals, m.total_cumulativeTotals, total?_perm (h.filterMap m.held)]

/-- The total CPU time does not depend on the order of the entries. -/
theorem cumulativeTotals_cpuTime_perm {accums accums' : List ProcessAccum}
    (h : accums.Perm accums') :
    (cumulativeTotals accums).cpuTime = (cumulativeTotals accums').cpuTime := by
  rw [cumulativeTotals_cpuTime, cumulativeTotals_cpuTime, (h.map _).sum_eq]

/-! ## The deltas of one tick -/

/-- Where the PIDs are distinct, every delta is taken from the state before the
tick. -/
theorem deltaReadings_eq_map (m : DeltaMetric) (prev : KeyMap Pid PrevCumulative)
    (hpids : (xs.map ProcessSnapshot.pid).Nodup) :
    deltaReadings m prev xs = xs.map fun snap => (m.read snap).map fun current =>
      current.saturatingSub (m.prev ((prev.lookup snap.pid).getD {})) := by
  induction xs generalizing prev with
  | nil => rfl
  | cons snap xs ih =>
      rw [List.map_cons, List.nodup_cons] at hpids
      rw [deltaReadings, ih _ hpids.2, List.map_cons]
      congr 1
      apply List.map_congr_left
      intro other hother
      have hne : other.pid ≠ snap.pid := fun heq =>
        hpids.1 (heq ▸ List.mem_map_of_mem hother)
      rw [lookup_upsert_ne hne]

/-- With distinct PIDs the readings of a delta are reordered with the processes. -/
theorem deltaReadings_perm (m : DeltaMetric) {prev prev' : KeyMap Pid PrevCumulative}
    (hprev : SameEntries prev prev') (h : xs.Perm ys)
    (hpids : (xs.map ProcessSnapshot.pid).Nodup) :
    (deltaReadings m prev xs).Perm (deltaReadings m prev' ys) := by
  rw [deltaReadings_eq_map m prev hpids,
    deltaReadings_eq_map m prev' ((h.map _).nodup_iff.mp hpids)]
  simp only [hprev _]
  exact h.map _

/-! ## States that differ in the order of their maps -/

/-- The two states hold the same values, their maps perhaps in another order. -/
structure SameState (s s' : SamplerState) : Prop where
  size : ∀ m : SizeMetric, m.held s = m.held s'
  peak : ∀ m : PeakMetric, m.held s = m.held s'
  maxNProcs : s.maxNProcs = s'.maxNProcs
  dataCollected : s.dataCollected = s'.dataCollected
  perPid : SameEntries s.perPid s'.perPid
  prevCumulative : SameEntries s.prevCumulative s'.prevCumulative

theorem SameState.refl (s : SamplerState) : SameState s s :=
  ⟨fun _ => rfl, fun _ => rfl, rfl, rfl, SameEntries.refl _, SameEntries.refl _⟩

/-- Absorbing the same snapshots in another order. -/
theorem SameState.absorb {s s' : SamplerState} (h : SameState s s') (hperm : xs.Perm ys)
    (hpids : (xs.map ProcessSnapshot.pid).Nodup) : SameState (s.absorb xs) (s'.absorb ys) where
  size := by
    intro m
    rw [SamplerState.size_absorb, SamplerState.size_absorb, h.size m, m.tickSum_perm hperm]
  peak := by
    intro m
    rw [SamplerState.held_absorb, SamplerState.held_absorb, h.peak m, m.tickSum_perm hperm]
  maxNProcs := by
    rw [SamplerState.maxNProcs_absorb, SamplerState.maxNProcs_absorb, h.maxNProcs,
      hperm.length_eq]
  dataCollected := by
    rw [SamplerState.dataCollected_absorb, SamplerState.dataCollected_absorb, h.dataCollected,
      hperm.isEmpty_eq]
  perPid := by
    rw [SamplerState.perPid_absorb, SamplerState.perPid_absorb]
    exact h.perPid.accumulate _ _ _ hperm hpids
  prevCumulative := by
    rw [SamplerState.prevCumulative_absorb, SamplerState.prevCumulative_absorb]
    exact h.prevCumulative

/-- Advancing the previous values by the same snapshots in another order. -/
theorem SameState.tick {s s' : SamplerState} (h : SameState s s') (hperm : xs.Perm ys)
    (hpids : (xs.map ProcessSnapshot.pid).Nodup) (elapsed : Seconds) :
    SameState (s.tick xs elapsed).1 (s'.tick ys elapsed).1 := by
  rw [SamplerState.tick_state, SamplerState.tick_state]
  exact
    { size := fun m => by cases m <;> [exact h.size .rss; exact h.size .vms]
      peak := fun m => by
        cases m <;> [exact h.peak .uss; exact h.peak .pss; exact h.peak .swap;
          exact h.peak .threads]
      maxNProcs := h.maxNProcs
      dataCollected := h.dataCollected
      perPid := h.perPid
      prevCumulative := h.prevCumulative.accumulate _ _ _ hperm hpids }

/-- The rows of the same snapshots in another order. -/
theorem IsRowOf.unique {s s' : SamplerState} {elapsed : Seconds}
    {row row' : TickRecord ℚ≥0} (h : SameState s s') (hperm : xs.Perm ys)
    (hpids : (xs.map ProcessSnapshot.pid).Nodup) (hrow : IsRowOf s xs elapsed row)
    (hrow' : IsRowOf s' ys elapsed row') : row = row' := by
  have hvalues := h.perPid.values_perm {}
  have hsize : ∀ m : SizeMetric, m.inRow row = m.inRow row' := fun m => by
    rw [hrow.size_eq, hrow'.size_eq, m.tickSum_perm hperm]
  have hdelta : ∀ m : DeltaMetric, m.inRow row = m.inRow row' := fun m => by
    have hreadings := deltaReadings_perm m h.prevCumulative hperm hpids
    rw [hrow.delta_eq, hrow'.delta_eq]
    exact total?_perm (hreadings.filterMap id)
  have hioIn : row.ioIn = row'.ioIn := by
    rw [hrow.ioIn_eq, hrow'.ioIn_eq, CounterMetric.ioIn.total_perm hvalues]
  have hioOut : row.ioOut = row'.ioOut := by
    rw [hrow.ioOut_eq, hrow'.ioOut_eq, CounterMetric.ioOut.total_perm hvalues]
  have hcpu : row.cpuTime = row'.cpuTime := by
    rw [hrow.cpuTime_eq, hrow'.cpuTime_eq, cumulativeTotals_cpuTime_perm hvalues]
  have huss : row.uss = row'.uss := by
    rw [hrow.uss_eq, hrow'.uss_eq, PeakMetric.uss.tickSum_perm hperm]
  have hpss : row.pss = row'.pss := by
    rw [hrow.pss_eq, hrow'.pss_eq, PeakMetric.pss.tickSum_perm hperm]
  have hswap : row.swap = row'.swap := by
    rw [hrow.swap_eq, hrow'.swap_eq, PeakMetric.swap.tickSum_perm hperm]
  have hthreads : row.nThreads = row'.nThreads := by
    rw [hrow.nThreads_eq, hrow'.nThreads_eq, PeakMetric.threads.tickSum_perm hperm]
  have hprocs : row.nProcs = row'.nProcs := by
    rw [hrow.nProcs_eq, hrow'.nProcs_eq, hperm.length_eq]
  have helapsed : row.elapsed = row'.elapsed := hrow.elapsed_eq.trans hrow'.elapsed_eq.symm
  cases row
  cases row'
  rw [TickRecord.mk.injEq]
  exact ⟨helapsed, hsize .rss, hsize .vms, huss, hpss, hioIn, hioOut, hcpu, hprocs,
    hdelta .majorPageFaults, hdelta .minorPageFaults, hdelta .voluntaryCtxSwitches,
    hdelta .involuntaryCtxSwitches, hthreads, hswap⟩

/-- The row of the same tick in another order. -/
theorem SameState.tick_row {s s' : SamplerState} (h : SameState s s') (hperm : xs.Perm ys)
    (hpids : (xs.map ProcessSnapshot.pid).Nodup) (elapsed : Seconds) :
    (s.tick xs elapsed).2 = (s'.tick ys elapsed).2 := by
  by_cases hxs : xs = []
  · subst hxs
    rw [List.nil_perm.mp hperm, SamplerState.tick_nil, SamplerState.tick_nil]
  · have hys : ys ≠ [] := fun hnil => hxs (List.perm_nil.mp (hnil ▸ hperm))
    rcases s.tick_row hxs elapsed with ⟨row, hrow, hspec⟩
    rcases s'.tick_row hys elapsed with ⟨row', hrow', hspec'⟩
    rw [hrow, hrow', hspec.unique h hperm hpids hspec']

/-- The record of the same state in another order. -/
theorem SameState.intoRecord {s s' : SamplerState} (h : SameState s s')
    (runningTime : Seconds) : s.intoRecord runningTime = s'.intoRecord runningTime := by
  have hvalues := h.perPid.values_perm {}
  have htotals : cumulativeTotals (values s.perPid) = cumulativeTotals (values s'.perPid) := by
    have htotal := fun m : CounterMetric => m.total_perm hvalues
    have hcpu := cumulativeTotals_cpuTime_perm hvalues
    generalize cumulativeTotals (values s.perPid) = totals at *
    generalize cumulativeTotals (values s'.perPid) = totals' at *
    cases totals
    cases totals'
    rw [CumulativeTotals.mk.injEq]
    exact ⟨htotal .ioIn, htotal .ioOut, hcpu, htotal .majorPageFaults, htotal .minorPageFaults,
      htotal .voluntaryCtxSwitches, htotal .involuntaryCtxSwitches⟩
  have hrss : s.maxRssBytes = s'.maxRssBytes := h.size .rss
  have hvms : s.maxVmsBytes = s'.maxVmsBytes := h.size .vms
  have huss : s.maxUssBytes = s'.maxUssBytes := h.peak .uss
  have hpss : s.maxPssBytes = s'.maxPssBytes := h.peak .pss
  have hswap : s.maxSwapBytes = s'.maxSwapBytes := h.peak .swap
  have hthreads : s.maxNThreads = s'.maxNThreads := h.peak .threads
  unfold SamplerState.intoRecord
  rw [h.dataCollected, htotals, hrss, hvms, huss, hpss, hswap, hthreads, h.maxNProcs]

end Perm

/-! ## Enumerated runs -/

/-- The same state, its map of accumulators iterated in another order. -/
structure SamplerState.Reordered (s t : SamplerState) : Prop where
  entries : s.perPid.entries.Perm t.perPid.entries
  rest : t = { s with perPid := t.perPid }

theorem SamplerState.Reordered.refl (s : SamplerState) : s.Reordered s :=
  ⟨List.Perm.refl _, rfl⟩

/-- Reordered states are the same. -/
theorem SamplerState.Reordered.same {s t : SamplerState} (h : s.Reordered t) :
    SameState s t := by
  rw [h.rest]
  exact
    { size := fun m => by cases m <;> rfl
      peak := fun m => by cases m <;> rfl
      maxNProcs := rfl
      dataCollected := rfl
      perPid := SameEntries.of_perm h.entries
      prevCumulative := SameEntries.refl _ }

theorem SameState.trans {s s' s'' : SamplerState} (h : SameState s s') (h' : SameState s' s'') :
    SameState s s'' where
  size m := (h.size m).trans (h'.size m)
  peak m := (h.peak m).trans (h'.peak m)
  maxNProcs := h.maxNProcs.trans h'.maxNProcs
  dataCollected := h.dataCollected.trans h'.dataCollected
  perPid := h.perPid.trans h'.perPid
  prevCumulative := h.prevCumulative.trans h'.prevCumulative

theorem SameState.symm {s s' : SamplerState} (h : SameState s s') : SameState s' s where
  size m := (h.size m).symm
  peak m := (h.peak m).symm
  maxNProcs := h.maxNProcs.symm
  dataCollected := h.dataCollected.symm
  perPid := h.perPid.symm
  prevCumulative := h.prevCumulative.symm

/-- Runs of the sampler loop in which every tick iterates the map of accumulators
in an order of its own. -/
inductive EnumeratedRun : TraceRun → List (Tick × Seconds) → TraceRun → Prop
  | nil (run : TraceRun) : EnumeratedRun run [] run
  | cons {run last : TraceRun} {ticks : List (Tick × Seconds)} (tick : Tick × Seconds)
      (state : SamplerState) (hstate : (run.state.absorb tick.1).Reordered state)
      (hrest : EnumeratedRun
        { state := (state.tick tick.1 tick.2).1
          rows := run.rows ++ (state.tick tick.1 tick.2).2.toList } ticks last) :
      EnumeratedRun run (tick :: ticks) last

/-- The run of the loop is one of them. -/
theorem EnumeratedRun.foldl_turn (run : TraceRun) (ticks : List (Tick × Seconds)) :
    EnumeratedRun run ticks (ticks.foldl TraceRun.turn run) := by
  induction ticks generalizing run with
  | nil => exact .nil run
  | cons tick ticks ih =>
      exact .cons tick (run.state.absorb tick.1) (.refl _) (ih (run.turn tick))

/-- Two enumerations of one run stay in the same state and write the same rows. -/
theorem EnumeratedRun.same {ticks ticks' : List (Tick × Seconds)} {run run' last last' : TraceRun}
    (hperm : List.Forall₂ (fun a b => a.1.Perm b.1 ∧ a.2 = b.2) ticks ticks')
    (hpids : ∀ tick ∈ ticks, (tick.1.map ProcessSnapshot.pid).Nodup)
    (hstate : SameState run.state run'.state) (hrows : run.rows = run'.rows)
    (h : EnumeratedRun run ticks last) (h' : EnumeratedRun run' ticks' last') :
    SameState last.state last'.state ∧ last.rows = last'.rows := by
  induction hperm generalizing run run' with
  | nil =>
      cases h
      cases h'
      exact ⟨hstate, hrows⟩
  | @cons tick tick' ticks ticks' htick _ ih =>
      cases h with
      | cons _ state hreordered hrest =>
          cases h' with
          | cons _ state' hreordered' hrest' =>
              rcases htick with ⟨hsnaps, helapsed⟩
              have hnodup := hpids tick List.mem_cons_self
              have habsorb : SameState state state' :=
                (hreordered.same.symm.trans (hstate.absorb hsnaps hnodup)).trans hreordered'.same
              refine ih (fun other hother => hpids other (List.mem_cons_of_mem tick hother))
                ?_ ?_ hrest hrest'
              · rw [← helapsed]
                exact habsorb.tick hsnaps hnodup tick.2
              · rw [hrows, ← helapsed, habsorb.tick_row hsnaps hnodup tick.2]

/-- Whatever the order of the snapshots within each tick, and whatever the order in
which the accumulators are iterated at each tick and at the end, a run with
distinct PIDs in each tick gives the same rows and the same record. -/
theorem enumeration_independent {ticks ticks' : List (Tick × Seconds)} {run run' : TraceRun}
    {state state' : SamplerState}
    (hpids : ∀ tick ∈ ticks, (tick.1.map ProcessSnapshot.pid).Nodup)
    (hperm : List.Forall₂ (fun a b => a.1.Perm b.1 ∧ a.2 = b.2) ticks ticks')
    (h : EnumeratedRun {} ticks run) (h' : EnumeratedRun {} ticks' run')
    (hstate : run.state.Reordered state) (hstate' : run'.state.Reordered state')
    (runningTime : Seconds) :
    run.rows = run'.rows ∧ state.intoRecord runningTime = state'.intoRecord runningTime := by
  rcases h.same hperm hpids (.refl _) rfl h' with ⟨hsame, hrows⟩
  refine ⟨hrows, ?_⟩
  exact ((hstate.same.symm.trans hsame).trans hstate'.same).intoRecord runningTime

/-- Two processes, listed in either order. -/
theorem enumeration_independent_twoProcesses :
    let parent : ProcessSnapshot := { pid := 7, minorPageFaults := some (clamp 5) }
    let child : ProcessSnapshot := { pid := 8, minorPageFaults := some (clamp 3) }
    (traceRun [([parent, child], 1)]).rows = (traceRun [([child, parent], 1)]).rows ∧
      (traceRun [([parent, child], 1)]).state.intoRecord 2 =
        (traceRun [([child, parent], 1)]).state.intoRecord 2 := by
  intro parent child
  have hperm : List.Forall₂ (fun a b : Tick × Seconds => a.1.Perm b.1 ∧ a.2 = b.2)
      [([parent, child], 1)] [([child, parent], 1)] :=
    .cons ⟨.swap _ _ _, rfl⟩ .nil
  exact enumeration_independent (by simp [parent, child]) hperm (.foldl_turn {} _)
    (.foldl_turn {} _) (.refl _) (.refl _) 2

end Tricord
