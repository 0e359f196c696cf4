import Tricord.Sampler.Loop

/-!
# What every sampler state satisfies

The sampler state keeps two maps with different update rules.  One holds the
running maximum of every counter of every PID, the other the last observation of
the four counters that have deltas, and only turns with an open trace advance it.
This module relates the two in every state that turns of the loop can reach, and
shows in which direction a later turn can move a state.

Main results:

- Theorem {lit}`SamplerState.Consistent.tick`: a tick on a list that has been
  absorbed keeps the previous values below the maxima.
- Theorem {lit}`SamplerState.afterTurns_invariant`: every reachable state is
  consistent, and grows from there.
- Theorem {lit}`exists_afterTurns_of_runSamplerLoop`: the state of the sampler
  thread is one of them, whatever its diagnostic side does.
-/

namespace Tricord

open BoundedNat KeyedAccumulation

/-! ## Turns of the loop -/

/-- One turn of the sampler loop: the sampled list, and the elapsed time when the
trace takes a row. -/
structure SamplerTurn where
  snapshots : Tick
  elapsed : Option Seconds

namespace SamplerState

/-- Absorb the list, and tick on it if the trace takes a row. -/
def turn (self : SamplerState) (turn : SamplerTurn) : SamplerState :=
  let state := self.absorb turn.snapshots
  match turn.elapsed with
  | some elapsed => (state.tick turn.snapshots elapsed).1
  | none => state

/-- The state after some turns, from the default state. -/
def afterTurns (turns : List SamplerTurn) : SamplerState :=
  turns.foldl turn {}

/-- The last turn is taken last. -/
theorem afterTurns_snoc (turns : List SamplerTurn) (last : SamplerTurn) :
    afterTurns (turns ++ [last]) = (afterTurns turns).turn last := by
  simp [afterTurns]

/-! ## The two maps, counter by counter -/

/-- The running maximum of a counter of a PID. -/
def heldOf (self : SamplerState) (m : CounterMetric) (pid : Pid) : Option U64 :=
  (self.perPid.lookup pid).bind m.held

/-- The previous cumulative value of a PID, zero when it has none. -/
def prevOf (self : SamplerState) (m : DeltaMetric) (pid : Pid) : U64 :=
  m.prev ((self.prevCumulative.lookup pid).getD {})

/-- How the parts of a state fit together. -/
structure Consistent (s : SamplerState) : Prop where
  collected_iff_perPid : s.dataCollected = true ↔ ∃ pid, pid ∈ s.perPid
  collected_iff_nProcs : s.dataCollected = true ↔ 0 < s.maxNProcs
  prev_mem : ∀ pid ∈ s.prevCumulative, pid ∈ s.perPid
  prev_le : ∀ (m : DeltaMetric) (pid : Pid),
    s.prevOf m pid ≤ (s.heldOf m.counter pid).getD 0
  prev_exposed : ∀ (m : DeltaMetric) (pid : Pid),
    s.prevOf m pid ≠ 0 → (s.heldOf m.counter pid).isSome

/-- A previous value is zero or at most a maximum that is there. -/
theorem Consistent.prev_dominated {self : SamplerState} (h : self.Consistent)
    (m : DeltaMetric) (pid : Pid) :
    self.prevOf m pid = 0 ∨ some (self.prevOf m pid) ≤ self.heldOf m.counter pid :=
  zero_or_some_le_iff.mpr ⟨h.prev_le m pid, h.prev_exposed m pid⟩

/-- Previous values that are dominated make the last two parts. -/
theorem Consistent.of_dominated {self : SamplerState}
    (hperPid : self.dataCollected = true ↔ ∃ pid, pid ∈ self.perPid)
    (hnProcs : self.dataCollected = true ↔ 0 < self.maxNProcs)
    (hmem : ∀ pid ∈ self.prevCumulative, pid ∈ self.perPid)
    (hdominated : ∀ (m : DeltaMetric) (pid : Pid),
      self.prevOf m pid = 0 ∨ some (self.prevOf m pid) ≤ self.heldOf m.counter pid) :
    self.Consistent where
  collected_iff_perPid := hperPid
  collected_iff_nProcs := hnProcs
  prev_mem := hmem
  prev_le m pid := (zero_or_some_le_iff.mp (hdominated m pid)).1
  prev_exposed m pid := (zero_or_some_le_iff.mp (hdominated m pid)).2

/-- The initial state is consistent. -/
theorem consistent_default : ({} : SamplerState).Consistent where
  collected_iff_perPid := by simp
  collected_iff_nProcs := by simp
  prev_mem := by simp
  prev_le m pid := by simp [prevOf]
  prev_exposed m pid := by simp [prevOf]

end SamplerState

/-! ## Growth -/

/-- No counter of the second entry is smaller, and none has become absent. -/
structure ProcessAccum.Le (entry entry' : ProcessAccum) : Prop where
  held : ∀ m : CounterMetric, m.held entry ≤ m.held entry'
  cpuTimeSeconds : entry.cpuTimeSeconds ≤ entry'.cpuTimeSeconds

theorem ProcessAccum.Le.refl (entry : ProcessAccum) : entry.Le entry where
  held m := option_le_refl (m.held entry)
  cpuTimeSeconds := le_rfl

theorem ProcessAccum.Le.trans {a b c : ProcessAccum} (hab : a.Le b) (hbc : b.Le c) :
    a.Le c where
  held m := option_le_trans (hab.held m) (hbc.held m)
  cpuTimeSeconds := hab.cpuTimeSeconds.trans hbc.cpuTimeSeconds

/-- An entry only grows with a snapshot. -/
theorem ProcessAccum.le_update (entry : ProcessAccum) (snap : ProcessSnapshot) :
    entry.Le (entry.update snap) where
  held m := by
    rw [m.held_update]
    exact le_raise _ _
  cpuTimeSeconds := by
    rw [ProcessAccum.cpuTimeSeconds_update]
    exact le_max_left _ _

namespace SamplerState

/-- The second state keeps every PID of both maps, lowers no maximum and turns none
into an absent one. -/
structure Grows (s next : SamplerState) : Prop where
  perPid : Extends ProcessAccum.Le s.perPid next.perPid
  prevCumulative : ∀ pid ∈ s.prevCumulative, pid ∈ next.prevCumulative
  size : ∀ m : SizeMetric, m.held s ≤ m.held next
  peak : ∀ m : PeakMetric, m.held s ≤ m.held next
  maxNProcs : s.maxNProcs ≤ next.maxNProcs
  dataCollected : s.dataCollected = true → next.dataCollected = true

theorem Grows.refl (self : SamplerState) : self.Grows self where
  perPid := Extends.refl ProcessAccum.Le.refl self.perPid
  prevCumulative _ h := h
  size _ := le_rfl
  peak m := option_le_refl (m.held self)
  maxNProcs := le_rfl
  dataCollected h := h

theorem Grows.trans {s t u : SamplerState} (hst : s.Grows t) (htu : t.Grows u) :
    s.Grows u where
  perPid := Extends.trans ProcessAccum.Le.trans hst.perPid htu.perPid
  prevCumulative pid h := htu.prevCumulative pid (hst.prevCumulative pid h)
  size m := (hst.size m).trans (htu.size m)
  peak m := option_le_trans (hst.peak m) (htu.peak m)
  maxNProcs := hst.maxNProcs.trans htu.maxNProcs
  dataCollected h := htu.dataCollected (hst.dataCollected h)

/-- A counter of a PID never goes down. -/
theorem Grows.heldOf_le {s t : SamplerState} (h : s.Grows t) (m : CounterMetric) (pid : Pid) :
    s.heldOf m pid ≤ t.heldOf m pid := by
  unfold heldOf
  cases hold : s.perPid.lookup pid with
  | none => exact Option.none_le
  | some entry =>
      rcases h.perPid pid entry hold with ⟨entry', hnew, hle⟩
      rw [hnew]
      exact hle.held m

/-- Absorbing a list lets the state grow. -/
theorem grows_absorb (self : SamplerState) (snapshots : Tick) :
    self.Grows (self.absorb snapshots) where
  perPid := by
    rw [perPid_absorb]
    exact Extends.accumulate ProcessAccum.Le.refl ProcessAccum.Le.trans _
      ProcessAccum.le_update _ _ _
  prevCumulative pid h := by
    rw [prevCumulative_absorb]
    exact h
  size m := by
    rw [size_absorb]
    exact le_max_left _ _
  peak m := by
    rw [held_absorb]
    exact le_raise _ _
  maxNProcs := by
    rw [maxNProcs_absorb]
    exact le_max_left _ _
  dataCollected h := by rw [dataCollected_absorb, h, Bool.true_or]

/-- A tick adds PIDs to the previous values and changes nothing else. -/
theorem grows_tick (self : SamplerState) (snapshots : Tick) (elapsed : Seconds) :
    self.Grows (self.tick snapshots elapsed).1 := by
  rw [tick_state]
  exact
    { perPid := Extends.refl ProcessAccum.Le.refl self.perPid
      prevCumulative := fun pid h => (mem_accumulate _ _ _).mpr (Or.inl h)
      size := fun m => by cases m <;> exact le_rfl
      peak := fun m => by cases m <;> exact option_le_refl _
      maxNProcs := le_rfl
      dataCollected := fun h => h }

theorem grows_turn (self : SamplerState) (turn : SamplerTurn) : self.Grows (self.turn turn) := by
  rcases turn with ⟨snapshots, _ | elapsed⟩
  · exact grows_absorb self snapshots
  · exact (grows_absorb self snapshots).trans (grows_tick _ snapshots elapsed)

/-! ## What one call preserves -/

/-- Every counter of every snapshot is held for its PID, in full or more. -/
def Covers (self : SamplerState) (snapshots : Tick) : Prop :=
  ∀ snap ∈ snapshots, snap.pid ∈ self.perPid ∧
    ∀ m : CounterMetric, m.read snap ≤ self.heldOf m snap.pid

/-- What has been absorbed is covered, also when PIDs are repeated. -/
theorem covers_absorb (self : SamplerState) (snapshots : Tick) :
    (self.absorb snapshots).Covers snapshots := by
  intro snap hsnap
  have hnow : ∀ (entry : ProcessAccum) (m : CounterMetric),
      m.read snap ≤ m.held (entry.update snap) := by
    intro entry m
    rw [m.held_update]
    exact reading_le_raise _ _
  have hstay : ∀ (entry : ProcessAccum) (other : ProcessSnapshot),
      (∀ m : CounterMetric, m.read snap ≤ m.held entry) →
      ∀ m : CounterMetric, m.read snap ≤ m.held (entry.update other) :=
    fun entry other hle m => option_le_trans (hle m) ((entry.le_update other).held m)
  rcases exists_lookup_accumulate ProcessSnapshot.pid hsnap hnow hstay self.perPid with
    ⟨entry, hentry, hle⟩
  rw [← perPid_absorb] at hentry
  refine ⟨AList.lookup_isSome.mp (by rw [hentry]; rfl), fun m => ?_⟩
  rw [heldOf, hentry]
  exact hle m

/-- Absorbing raises the maxima above the previous values, which stay. -/
theorem Consistent.absorb {self : SamplerState} (h : self.Consistent) (snapshots : Tick) :
    (self.absorb snapshots).Consistent := by
  have hgrows := grows_absorb self snapshots
  apply Consistent.of_dominated
  case hperPid =>
    cases snapshots with
    | nil => exact h.collected_iff_perPid
    | cons snap snapshots =>
        have hmem := (covers_absorb self (snap :: snapshots) snap (List.mem_cons_self ..)).1
        exact iff_of_true (by simp [dataCollected_absorb]) ⟨snap.pid, hmem⟩
  case hnProcs =>
    cases snapshots with
    | nil => exact h.collected_iff_nProcs
    | cons snap snapshots =>
        rw [maxNProcs_absorb]
        exact iff_of_true (by simp [dataCollected_absorb]) (by simp)
  case hmem =>
    intro pid hpid
    rw [prevCumulative_absorb] at hpid
    exact hgrows.perPid.mem (h.prev_mem pid hpid)
  case hdominated =>
    intro m pid
    have hprev : (self.absorb snapshots).prevOf m pid = self.prevOf m pid := by
      rw [prevOf, prevOf, prevCumulative_absorb]
    rw [hprev]
    exact (h.prev_dominated m pid).imp_right fun hle =>
      option_le_trans hle (hgrows.heldOf_le m.counter pid)

/-- Advancing the previous values by a list that is covered keeps them below the
maxima. -/
theorem Consistent.tick {self : SamplerState} (h : self.Consistent) {snapshots : Tick}
    (hcovers : self.Covers snapshots) (elapsed : Seconds) :
    (self.tick snapshots elapsed).1.Consistent := by
  have hentries : ∀ pid prev,
      (accumulate ProcessSnapshot.pid PrevCumulative.advance {} self.prevCumulative
        snapshots).lookup pid = some prev →
      ∀ m : DeltaMetric, m.prev prev = 0 ∨ some (m.prev prev) ≤ self.heldOf m.counter pid := by
    refine forall_lookup_accumulate ?_ (fun snap _ m => Or.inl m.prev_default) ?_
    · intro pid prev hprev m
      have hdominated := h.prev_dominated m pid
      rwa [prevOf, hprev, Option.getD_some] at hdominated
    · intro snap hsnap prev hold m
      rw [m.prev_advance]
      cases hread : m.read snap with
      | none => exact hold m
      | some current =>
          -- The last observation of a PID is one of those that raised its maximum.
          have hle := (hcovers snap hsnap).2 m.counter
          rw [show m.counter.read snap = some current from hread] at hle
          exact Or.inr hle
  rw [tick_state]
  apply Consistent.of_dominated
  case hperPid => exact h.collected_iff_perPid
  case hnProcs => exact h.collected_iff_nProcs
  case hmem =>
    intro pid hpid
    rcases (mem_accumulate _ _ _).mp hpid with hold | hnew
    · exact h.prev_mem pid hold
    · rcases List.mem_map.mp hnew with ⟨snap, hsnap, rfl⟩
      exact (hcovers snap hsnap).1
  case hdominated =>
    intro m pid
    rw [prevOf]
    cases hlookup : (accumulate ProcessSnapshot.pid PrevCumulative.advance {}
      self.prevCumulative snapshots).lookup pid with
    | none => exact Or.inl m.prev_default
    | some prev => exact hentries pid prev hlookup m

/-- Every turn keeps the state consistent. -/
theorem Consistent.turn {self : SamplerState} (h : self.Consistent) (turn : SamplerTurn) :
    (self.turn turn).Consistent := by
  rcases turn with ⟨snapshots, _ | elapsed⟩
  · exact h.absorb snapshots
  · exact (h.absorb snapshots).tick (covers_absorb self snapshots) elapsed

/-! ## What a run preserves -/

/-- Every mixture of turns leaves a consistent state. -/
theorem consistent_afterTurns (turns : List SamplerTurn) : (afterTurns turns).Consistent := by
  induction turns using List.reverseRecOn with
  | nil => exact consistent_default
  | append_singleton turns last ih =>
      rw [afterTurns_snoc]
      exact ih.turn last

/-- The state grows over any turns that follow. -/
theorem grows_foldl_turn (turns : List SamplerTurn) (self : SamplerState) :
    self.Grows (turns.foldl SamplerState.turn self) := by
  induction turns generalizing self with
  | nil => exact Grows.refl self
  | cons turn turns ih => exact (grows_turn self turn).trans (ih _)

/-- Every state that turns of the loop reach from the default state is consistent,
and whatever turns follow, it only grows. -/
theorem afterTurns_invariant (turns later : List SamplerTurn) :
    (afterTurns turns).Consistent ∧ (afterTurns turns).Grows (afterTurns (turns ++ later)) := by
  refine ⟨consistent_afterTurns turns, ?_⟩
  have happend : afterTurns (turns ++ later) = later.foldl turn (afterTurns turns) :=
    List.foldl_append
  rw [happend]
  exact grows_foldl_turn later (afterTurns turns)

end SamplerState

/-! ## The sampler thread -/

/-- The loop starts from the initial state. -/
theorem startSamplerLoop_state {d : Diagnostics} {tracePath : Option String} {run : LoopRun}
    (h : startSamplerLoop d tracePath = .ok run) : run.state = {} := by
  rcases startSamplerLoop_ok h with ⟨_, rfl⟩ | ⟨_, _, rfl⟩ | ⟨_, _, line, rfl⟩
  · rfl
  · rfl
  · rfl

/-- A turn that the thread survives is a turn of the state, with a tick while the
trace is open. -/
theorem LoopTurn.exists_turn {d : Diagnostics} {run run' : LoopRun} {tick : Tick × Seconds}
    (h : LoopTurn d run tick (.ok run')) :
    ∃ elapsed, run'.state = run.state.turn { snapshots := tick.1, elapsed := elapsed } := by
  cases h with
  | untraced hwriting => exact ⟨none, rfl⟩
  | empty hwriting hempty =>
      refine ⟨none, ?_⟩
      rw [hempty]
      rfl
  | wrote hwriting hne hok row hrow => exact ⟨some tick.2, rfl⟩
  | gaveUp hwriting hne hfail hreport line => exact ⟨some tick.2, rfl⟩

/-- While the sampler thread lives, its state is reached by turns on the sampled
lists. -/
theorem exists_afterTurns_of_runSamplerLoop {d : Diagnostics} {tracePath : Option String}
    {ticks : List (Tick × Seconds)} {run : LoopRun}
    (h : runSamplerLoop d tracePath ticks = .ok run) :
    ∃ turns : List SamplerTurn, turns.map SamplerTurn.snapshots = tickLists ticks ∧
      run.state = SamplerState.afterTurns turns := by
  refine runSamplerLoop_invariant
    (P := fun ticks run => ∃ turns : List SamplerTurn,
      turns.map SamplerTurn.snapshots = tickLists ticks ∧
        run.state = SamplerState.afterTurns turns) ?_ ?_ h
  · exact fun run hstart => ⟨[], rfl, startSamplerLoop_state hstart⟩
  · rintro ticks tick run run' ⟨turns, hlists, hstate⟩ hturn
    rcases hturn.exists_turn with ⟨elapsed, hnext⟩
    refine ⟨turns ++ [{ snapshots := tick.1, elapsed := elapsed }], ?_, ?_⟩
    · simp [hlists]
    · rw [hnext, hstate, SamplerState.afterTurns_snoc]

/-- The state of a living sampler thread is consistent, whatever its diagnostic
side does. -/
theorem runSamplerLoop_consistent {d : Diagnostics} {tracePath : Option String}
    {ticks : List (Tick × Seconds)} {run : LoopRun}
    (h : runSamplerLoop d tracePath ticks = .ok run) : run.state.Consistent := by
  rcases exists_afterTurns_of_runSamplerLoop h with ⟨turns, _, hstate⟩
  rw [hstate]
  exact SamplerState.consistent_afterTurns turns

end Tricord
