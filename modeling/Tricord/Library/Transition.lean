import Mathlib.Logic.Relation

/-!
# Guarded runs of executable machines

A machine is an initial state and a partial step function, so that a run is an
ordinary computation.  A guard restricts the runs under consideration to those
whose every step it allows: a schedule, a timing assumption, or the condition
under which a property holds.

Main results:

- Theorem {lit}`ReachesUnder.invariant`: what every allowed step preserves holds
  along every allowed run.
- Theorem {lit}`reachesUnder_of_replay`: a replayed list of actions is an allowed
  run.
-/

namespace Transition

open Relation

/-- An initial state and a partial step function. -/
structure Machine (S A : Type*) where
  init : S
  step : S → A → Option S

namespace Machine

variable {S A : Type*} (m : Machine S A)

/-- One step by an action that the guard allows. -/
def StepUnder (guard : S → A → Prop) (s t : S) : Prop :=
  ∃ a, guard s a ∧ m.step s a = some t

/-- Runs whose every step the guard allows. -/
def ReachesUnder (guard : S → A → Prop) : S → S → Prop :=
  ReflTransGen (m.StepUnder guard)

/-- States that some run from the initial state reaches. -/
def Reachable (s : S) : Prop :=
  m.ReachesUnder (fun _ _ => True) m.init s

variable {m} {guard : S → A → Prop}

/-! ## Invariants -/

/-- What every allowed step preserves holds along every allowed run. -/
theorem ReachesUnder.invariant {P : S → Prop} {s t : S} (h : m.ReachesUnder guard s t)
    (hs : P s) (hstep : ∀ s a t, guard s a → P s → m.step s a = some t → P t) : P t := by
  induction h with
  | refl => exact hs
  | tail _ hlast ih =>
      rcases hlast with ⟨a, hguard, hnext⟩
      exact hstep _ a _ hguard ih hnext

/-- What holds initially and is preserved by every step holds in every reachable
state. -/
theorem Reachable.invariant {P : S → Prop} {s : S} (h : m.Reachable s) (hinit : P m.init)
    (hstep : ∀ s a t, P s → m.step s a = some t → P t) : P s :=
  ReachesUnder.invariant h hinit fun s a t _ => hstep s a t

theorem Reachable.init : m.Reachable m.init :=
  ReflTransGen.refl

/-- Reachability goes on by one step. -/
theorem Reachable.step {s t : S} {a : A} (h : m.Reachable s) (hstep : m.step s a = some t) :
    m.Reachable t :=
  h.tail ⟨a, trivial, hstep⟩

/-! ## Replaying a list of actions -/

/-- Perform the actions in order, as long as the guard allows them. -/
def replay (m : Machine S A) (guard : S → A → Prop) [∀ s a, Decidable (guard s a)] :
    S → List A → Option S
  | s, [] => some s
  | s, a :: actions =>
      if guard s a then (m.step s a).bind fun t => replay m guard t actions
      else none

/-- A replayed list of actions is an allowed run. -/
theorem reachesUnder_of_replay [∀ s a, Decidable (guard s a)] {s t : S} {actions : List A}
    (h : m.replay guard s actions = some t) : m.ReachesUnder guard s t := by
  induction actions generalizing s with
  | nil =>
      rw [replay, Option.some_inj] at h
      rw [h]
      exact ReflTransGen.refl
  | cons a actions ih =>
      rw [replay] at h
      rcases Option.ite_none_right_eq_some.mp h with ⟨hguard, hrun⟩
      rcases Option.bind_eq_some_iff.mp hrun with ⟨next, hnext, hrest⟩
      exact ReflTransGen.head ⟨a, hguard, hnext⟩ (ih hrest)

/-- A replay that ends in a state with a decidable property shows that such a
state is reached. -/
theorem exists_reachesUnder_of_replay [∀ s a, Decidable (guard s a)] {s : S}
    (actions : List A) {P : S → Prop} [DecidablePred P]
    (h : (m.replay guard s actions).any P = true) : ∃ t, m.ReachesUnder guard s t ∧ P t := by
  rcases (Option.any_eq_true _ _).mp h with ⟨t, ht, hP⟩
  exact ⟨t, reachesUnder_of_replay ht, of_decide_eq_true hP⟩

end Machine

end Transition
