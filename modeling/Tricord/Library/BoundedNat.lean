import Mathlib.Order.Lattice
import Mathlib.Order.BoundedOrder.Basic
import Mathlib.Data.List.ReduceOption
import Mathlib.Algebra.BigOperators.Group.List.Basic
import Mathlib.Algebra.Order.BigOperators.Group.List
import Mathlib.Algebra.GroupWithZero.Nat
import Mathlib.Algebra.Order.Group.Nat
import Mathlib.Data.List.MinMax

/-!
# Bounded naturals with saturating arithmetic

A {lit}`BoundedNat cap` is a natural number together with the proof that it
does not exceed {lit}`cap`.  Addition and subtraction saturate at the two ends.
The module also covers the two ways in which a monitoring loop condenses
optional readings: a saturating sum with a presence flag, and a running maximum
that starts from nothing.

Main results:

- Theorem {lit}`foldl_saturatingAdd`: a saturating fold is the exact sum,
  clamped once at the end.
- Theorem {lit}`ExposedSum.result_foldl`: the flagged loop returns nothing on
  readings that are all absent, and the clamped sum of the present ones
  otherwise.
- Theorem {lit}`foldl_raise`: the running maximum is the maximum of the present
  readings.
-/

/-- A natural number no larger than {lit}`cap`. -/
@[ext]
structure BoundedNat (cap : ℕ) where
  toNat : ℕ
  toNat_le : toNat ≤ cap
deriving DecidableEq

namespace BoundedNat

variable {cap : ℕ}

/-! ## Order and clamping -/

/-- Two bounded numbers with the same value are equal. -/
theorem toNat_injective : Function.Injective (toNat : BoundedNat cap → ℕ) :=
  fun _ _ h => BoundedNat.ext h

instance : LinearOrder (BoundedNat cap) :=
  LinearOrder.lift' toNat toNat_injective

/-- The order is that of the values. -/
theorem le_iff {a b : BoundedNat cap} : a ≤ b ↔ a.toNat ≤ b.toNat :=
  Iff.rfl

/-- The largest representable number not above {lit}`n`. -/
def clamp (n : ℕ) : BoundedNat cap where
  toNat := min n cap
  toNat_le := min_le_right n cap

/-- The number itself, when it is representable. -/
def ofNat? (n : ℕ) : Option (BoundedNat cap) :=
  if h : n ≤ cap then some ⟨n, h⟩ else none

/-- A bounded number is admitted back as itself. -/
@[simp]
theorem ofNat?_toNat (a : BoundedNat cap) : ofNat? a.toNat = some a :=
  dif_pos a.toNat_le

instance : Zero (BoundedNat cap) where
  zero := ⟨0, Nat.zero_le cap⟩

instance : Inhabited (BoundedNat cap) where
  default := 0

instance : OrderBot (BoundedNat cap) where
  bot := 0
  bot_le a := Nat.zero_le a.toNat

/-- Clamping cuts off at the cap. -/
@[simp]
theorem toNat_clamp (n : ℕ) : (clamp n : BoundedNat cap).toNat = min n cap :=
  rfl

/-- Zero has the value zero. -/
@[simp]
theorem toNat_zero : (0 : BoundedNat cap).toNat = 0 :=
  rfl

/-- The least bounded number is zero. -/
@[simp]
theorem bot_eq_zero : (⊥ : BoundedNat cap) = 0 :=
  rfl

/-- No bounded number is below zero. -/
@[simp]
protected theorem zero_le (a : BoundedNat cap) : 0 ≤ a :=
  Nat.zero_le a.toNat

/-- Clamping does nothing to a value within the cap. -/
@[simp]
theorem clamp_toNat (a : BoundedNat cap) : clamp a.toNat = a := by
  ext
  simpa using a.toNat_le

/-- Zero is within every cap. -/
@[simp]
theorem clamp_zero : (clamp 0 : BoundedNat cap) = 0 := by
  ext
  simp

/-- Clamping respects the order. -/
theorem clamp_mono {m n : ℕ} (h : m ≤ n) :
    (clamp m : BoundedNat cap) ≤ clamp n := by
  rw [le_iff]
  exact min_le_min_right cap h

/-- Taking the value respects the order. -/
theorem toNat_mono : Monotone (toNat : BoundedNat cap → ℕ) :=
  fun _ _ h => h

/-! ## Saturating arithmetic -/

/-- Addition that stops at {lit}`cap`. -/
def saturatingAdd (a b : BoundedNat cap) : BoundedNat cap :=
  clamp (a.toNat + b.toNat)

/-- Subtraction that stops at zero. -/
def saturatingSub (a b : BoundedNat cap) : BoundedNat cap where
  toNat := a.toNat - b.toNat
  toNat_le := (Nat.sub_le _ _).trans a.toNat_le

/-- Multiplication by a constant that stops at {lit}`cap`. -/
def saturatingMul (a : BoundedNat cap) (k : ℕ) : BoundedNat cap :=
  clamp (a.toNat * k)

/-- A saturating sum is the sum, cut off at the cap. -/
@[simp]
theorem toNat_saturatingAdd (a b : BoundedNat cap) :
    (a.saturatingAdd b).toNat = min (a.toNat + b.toNat) cap :=
  rfl

/-- A saturating difference is the truncated difference of the values. -/
@[simp]
theorem toNat_saturatingSub (a b : BoundedNat cap) :
    (a.saturatingSub b).toNat = a.toNat - b.toNat :=
  rfl

/-- Clamping first and adding afterwards clamps the whole sum. -/
theorem clamp_saturatingAdd (n : ℕ) (b : BoundedNat cap) :
    saturatingAdd (clamp n) b = clamp (n + b.toNat) := by
  ext
  simp only [toNat_saturatingAdd, toNat_clamp]
  omega

/-- The exact sum of a list, clamped once. -/
def total (values : List (BoundedNat cap)) : BoundedNat cap :=
  clamp (values.map toNat).sum

/-- A saturating loop started at a clamped number adds the exact sum. -/
theorem foldl_saturatingAdd_clamp (values : List (BoundedNat cap)) (n : ℕ) :
    values.foldl saturatingAdd (clamp n) = clamp (n + (values.map toNat).sum) := by
  induction values generalizing n with
  | nil => simp
  | cons v values ih =>
      rw [List.foldl_cons, clamp_saturatingAdd, ih]
      simp [Nat.add_assoc]

/-- A saturating loop started at zero computes the clamped sum. -/
theorem foldl_saturatingAdd (values : List (BoundedNat cap)) :
    values.foldl saturatingAdd 0 = total values := by
  rw [← clamp_zero, foldl_saturatingAdd_clamp, Nat.zero_add, total]

/-- A total does not depend on the order of its summands. -/
theorem total_perm {xs ys : List (BoundedNat cap)} (h : xs.Perm ys) :
    total xs = total ys := by
  rw [total, total, (h.map toNat).sum_eq]

/-- A total is the sum of the values, cut off once. -/
@[simp]
theorem toNat_total (values : List (BoundedNat cap)) :
    (total values).toNat = min (values.map toNat).sum cap :=
  rfl

/-- Clamping the parts before they are added changes nothing. -/
theorem total_map_clamp {X : Type*} (f : X → ℕ) (xs : List X) :
    (total (xs.map fun x => clamp (f x)) : BoundedNat cap) = clamp (xs.map f).sum := by
  induction xs with
  | nil => rfl
  | cons x xs ih =>
      have hrest := congrArg toNat ih
      ext
      simp only [toNat_total, toNat_clamp, List.map_cons, List.sum_cons] at hrest ⊢
      omega

/-! ## The order of optional readings -/

theorem option_le_refl {α : Type*} [Preorder α] (a : Option α) : a ≤ a := by
  cases a with
  | none => exact Option.none_le
  | some v => exact Option.some_le_some.mpr le_rfl

theorem option_le_trans {α : Type*} [Preorder α] {a b c : Option α} (hab : a ≤ b)
    (hbc : b ≤ c) : a ≤ c := by
  cases a with
  | none => exact Option.none_le
  | some u =>
      cases b with
      | none => exact absurd hab Option.not_some_le_none
      | some v =>
          cases c with
          | none => exact absurd hbc Option.not_some_le_none
          | some w =>
              exact Option.some_le_some.mpr
                ((Option.some_le_some.mp hab).trans (Option.some_le_some.mp hbc))

theorem option_le_antisymm {α : Type*} [PartialOrder α] {a b : Option α} (hab : a ≤ b)
    (hba : b ≤ a) : a = b := by
  cases a with
  | none => exact (Option.le_none.mp hba).symm
  | some v =>
      cases b with
      | none => exact Option.le_none.mp hab
      | some w =>
          exact congrArg some
            (le_antisymm (Option.some_le_some.mp hab) (Option.some_le_some.mp hba))

/-! ## Sums of optional readings -/

/-- The clamped sum of the present readings; nothing when there is none. -/
def total? : List (BoundedNat cap) → Option (BoundedNat cap)
  | [] => none
  | v :: values => some (total (v :: values))

@[simp]
theorem total?_nil : total? ([] : List (BoundedNat cap)) = none :=
  rfl

/-- Values that are there have their saturated total. -/
theorem total?_eq_some {values : List (BoundedNat cap)} (h : values ≠ []) :
    total? values = some (total values) := by
  cases values with
  | nil => exact absurd rfl h
  | cons v values => rfl

/-- A total is missing exactly when there are no values. -/
@[simp]
theorem total?_eq_none_iff {values : List (BoundedNat cap)} :
    total? values = none ↔ values = [] := by
  cases values <;> simp [total?]

/-- An optional total does not depend on the order of its summands. -/
theorem total?_perm {xs ys : List (BoundedNat cap)} (h : xs.Perm ys) :
    total? xs = total? ys := by
  by_cases hxs : xs = []
  · subst hxs
    rw [List.nil_perm.mp h]
  · have hys : ys ≠ [] := fun hnil => hxs (List.perm_nil.mp (hnil ▸ h))
    rw [total?_eq_some hxs, total?_eq_some hys, total_perm h]

/-- Reading an absent total as zero, the total is the clamped sum. -/
theorem total?_getD (values : List (BoundedNat cap)) :
    (total? values).getD 0 = total values := by
  cases values with
  | nil => simp [total]
  | cons v values => rfl

/-- Readings clamped one by one have the clamped sum as their total. -/
theorem total?_filterMap_clamp {X : Type*} (f : X → Option ℕ) (xs : List X) :
    (total? (xs.filterMap fun x => (f x).map clamp) : Option (BoundedNat cap)) =
      if xs.filterMap f = [] then none else some (clamp (xs.filterMap f).sum) := by
  rw [← List.map_filterMap]
  split_ifs with hnone
  · rw [hnone, List.map_nil, total?_nil]
  · rw [total?_eq_some (List.map_eq_nil_iff.not.mpr hnone), total_map_clamp, List.map_id']

/-- A missing reading adds as much as a reading of zero. -/
theorem sum_toNat_filterMap {X : Type*} (f : X → Option (BoundedNat cap)) (xs : List X) :
    ((xs.filterMap f).map toNat).sum = (xs.map fun x => ((f x).getD 0).toNat).sum := by
  induction xs with
  | nil => rfl
  | cons x xs ih =>
      cases hx : f x with
      | none => simp [hx, ih]
      | some v => simp [hx, ih]

/-- Larger readings have a larger total, and present readings a present one. -/
theorem total?_filterMap_mono {X : Type*} {f g : X → Option (BoundedNat cap)} {xs : List X}
    (h : ∀ x ∈ xs, f x ≤ g x) : total? (xs.filterMap f) ≤ total? (xs.filterMap g) := by
  by_cases hf : xs.filterMap f = []
  · rw [hf]
    exact Option.none_le
  · have hg : xs.filterMap g ≠ [] := by
      rcases List.exists_mem_of_ne_nil _ hf with ⟨v, hv⟩
      rcases List.mem_filterMap.mp hv with ⟨x, hx, hread⟩
      have hle := h x hx
      intro hnil
      rw [hread, List.filterMap_eq_nil_iff.mp hnil x hx] at hle
      exact absurd hle Option.not_some_le_none
    rw [total?_eq_some hf, total?_eq_some hg, Option.some_le_some, total, total,
      sum_toNat_filterMap, sum_toNat_filterMap]
    apply clamp_mono
    apply List.sum_le_sum
    intro x hx
    have hle := h x hx
    cases hfx : f x with
    | none => simp
    | some v =>
        cases hgx : g x with
        | none => simp [hfx, hgx] at hle
        | some w =>
            rw [hfx, hgx, Option.some_le_some] at hle
            exact hle

/-- A saturating sum that remembers whether any reading was present. -/
structure ExposedSum (cap : ℕ) where
  sum : BoundedNat cap := 0
  any : Bool := false

namespace ExposedSum

/-- Add one optional reading. -/
def observe (acc : ExposedSum cap) : Option (BoundedNat cap) → ExposedSum cap
  | some v => { sum := acc.sum.saturatingAdd v, any := true }
  | none => acc

/-- The sum, unless every reading was absent. -/
def result (acc : ExposedSum cap) : Option (BoundedNat cap) :=
  if acc.any then some acc.sum else none

/-- The sum of a pass is the saturating sum of the readings that are there. -/
theorem foldl_observe_sum (readings : List (Option (BoundedNat cap)))
    (acc : ExposedSum cap) :
    (readings.foldl observe acc).sum =
      readings.reduceOption.foldl saturatingAdd acc.sum := by
  induction readings generalizing acc with
  | nil => rfl
  | cons r readings ih =>
      cases r with
      | none => simpa [observe] using ih acc
      | some v => simpa [observe] using ih _

/-- A pass has seen a value when some reading is there. -/
theorem foldl_observe_any (readings : List (Option (BoundedNat cap)))
    (acc : ExposedSum cap) :
    (readings.foldl observe acc).any =
      (acc.any || !readings.reduceOption.isEmpty) := by
  induction readings generalizing acc with
  | nil => simp
  | cons r readings ih =>
      cases r with
      | none => simpa [observe] using ih acc
      | some v =>
          rw [List.foldl_cons, ih]
          simp [observe]

/-- The flagged loop computes the clamped sum of the present readings. -/
theorem result_foldl (readings : List (Option (BoundedNat cap))) :
    (readings.foldl observe {}).result = total? readings.reduceOption := by
  rw [result, foldl_observe_any, foldl_observe_sum, foldl_saturatingAdd]
  cases hpresent : readings.reduceOption with
  | nil => simp
  | cons v values => simp [total?]

end ExposedSum

/-! ## Running maxima of optional readings -/

/-- Raise a held optional maximum by one optional reading.  An absent maximum
counts as zero, an absent reading changes nothing. -/
def raise (held : Option (BoundedNat cap)) :
    Option (BoundedNat cap) → Option (BoundedNat cap)
  | some v => some (max v (held.getD 0))
  | none => held

/-- A missing reading raises nothing. -/
@[simp]
theorem raise_none (held : Option (BoundedNat cap)) : raise held none = held :=
  rfl

/-- A reading raises what is held to the larger of the two. -/
theorem raise_some (held : Option (BoundedNat cap)) (v : BoundedNat cap) :
    raise held (some v) = some (max v (held.getD 0)) :=
  rfl

/-- Raising never lowers what is held. -/
theorem le_raise (held reading : Option (BoundedNat cap)) : held ≤ raise held reading := by
  cases reading with
  | none => exact option_le_refl held
  | some v =>
      cases held with
      | none => exact Option.none_le
      | some w => exact Option.some_le_some.mpr (le_max_right v w)

/-- What is held after raising is at least the reading. -/
theorem reading_le_raise (held reading : Option (BoundedNat cap)) :
    reading ≤ raise held reading := by
  cases reading with
  | none => exact Option.none_le
  | some v => exact Option.some_le_some.mpr (le_max_left v (held.getD 0))

/-- A value that is zero or below a held maximum is one that stays below the maximum
read as a number, and is zero where nothing is held. -/
theorem zero_or_some_le_iff {v : BoundedNat cap} {held : Option (BoundedNat cap)} :
    v = 0 ∨ some v ≤ held ↔ v ≤ held.getD 0 ∧ (v ≠ 0 → held.isSome) := by
  cases held with
  | none =>
      have hle : v ≤ 0 ↔ v = 0 := le_bot_iff
      simp [hle]
  | some w =>
      rw [Option.some_le_some, Option.getD_some]
      constructor
      · rintro (rfl | hle)
        · exact ⟨BoundedNat.zero_le w, fun _ => rfl⟩
        · exact ⟨hle, fun _ => rfl⟩
      · exact fun h => Or.inr h.1

/-- Raising by a reading appends it to the list whose maximum is held. -/
theorem raise_max? (values : List (BoundedNat cap)) (v : BoundedNat cap) :
    raise values.max? (some v) = (values ++ [v]).max? := by
  cases values with
  | nil => simp [raise]
  | cons w values =>
      rw [List.cons_append, List.max?_cons', List.max?_cons', raise_some,
        List.foldl_append]
      simp [max_comm]

/-- The running maximum is the maximum of all present readings. -/
theorem foldl_raise_max? (readings : List (Option (BoundedNat cap)))
    (values : List (BoundedNat cap)) :
    readings.foldl raise values.max? = (values ++ readings.reduceOption).max? := by
  induction readings generalizing values with
  | nil => simp
  | cons r readings ih =>
      cases r with
      | none => simpa using ih values
      | some v =>
          rw [List.foldl_cons, raise_max?, ih]
          simp

/-- Raising reading after reading leaves the largest one, and nothing when there is none. -/
theorem foldl_raise (readings : List (Option (BoundedNat cap))) :
    readings.foldl raise none = readings.reduceOption.max? := by
  simpa using foldl_raise_max? readings []

end BoundedNat
