import Tricord.Library.Lifetimes

/-!
# Sums of increments

A monitor reports, for every observation of a key, by how much the reading rose
above the last one of that key, and counts a fall as nothing.  This module
places the sum of these increments between the sum of the per-key maxima and
the sum of the per-owner maxima of a stream whose owners take a key one after
the other.

Main results:

- Theorem {lit}`sumOfMaxima_le_rise`: the increments add up to at least the sum
  of the per-key maxima.
- Theorem {lit}`rise_le_sumOfMaxima_owner`: they add up to at most the sum of the
  per-owner maxima.
- Theorem {lit}`toNat_held_accumulate`: a map whose entries are replaced by every
  present reading holds the last reading of each key.
-/

namespace KeyedMaxima

open BoundedNat KeyedAccumulation

variable {K I O : Type*} [DecidableEq K] [DecidableEq I] {cap : ℕ}

/-! ## Increments along a stream -/

/-- The increments over the last reading of the key, added along a stream that
continues an earlier one. -/
def rise (key : O → K) (read : O → Option ℕ) (before : List O) : List O → ℕ
  | [] => 0
  | o :: observations =>
      ((read o).getD 0 - lastReading key read before (key o)) +
        rise key read (before ++ [o]) observations

variable {key : O → K} {read : O → Option ℕ}

/-- The rise over two stretches is the sum of their rises. -/
theorem rise_append (before xs ys : List O) :
    rise key read before (xs ++ ys) =
      rise key read before xs + rise key read (before ++ xs) ys := by
  induction xs generalizing before with
  | nil => simp [rise]
  | cons x xs ih =>
      rw [List.cons_append, rise, rise, ih, List.append_assoc, List.singleton_append]
      omega

/-- One more observation adds its own rise. -/
theorem rise_snoc (observations : List O) (o : O) :
    rise key read [] (observations ++ [o]) =
      rise key read [] observations +
        ((read o).getD 0 - lastReading key read observations (key o)) := by
  rw [rise_append, List.nil_append]
  rfl

/-- Relabelling the observations does not change the increments. -/
theorem rise_map {P : Type*} (key : O → K) (read : O → Option ℕ) (f : P → O)
    (before observations : List P) :
    rise key read (before.map f) (observations.map f) =
      rise (key ∘ f) (read ∘ f) before observations := by
  induction observations generalizing before with
  | nil => rfl
  | cons p observations ih =>
      have hbefore : before.map f ++ [f p] = (before ++ [p]).map f := by simp
      rw [List.map_cons, rise, rise, hbefore, ih, lastReading, lastReading, readingsOf_map]
      rfl

/-! ## Sums that differ at one point -/

/-- A sum grows by at most what its one growing summand grows by. -/
theorem sum_le_sum_add {s : Finset I} {f g : I → ℕ} {i : I} {d : ℕ} (hi : i ∈ s)
    (hpoint : f i ≤ g i + d) (hrest : ∀ j ∈ s, j ≠ i → f j ≤ g j) :
    ∑ j ∈ s, f j ≤ ∑ j ∈ s, g j + d := by
  have herase : ∑ j ∈ s.erase i, f j ≤ ∑ j ∈ s.erase i, g j :=
    Finset.sum_le_sum fun j hj =>
      hrest j (Finset.mem_of_mem_erase hj) (Finset.ne_of_mem_erase hj)
  rw [← Finset.add_sum_erase s f hi, ← Finset.add_sum_erase s g hi]
  omega

/-- A sum grows by at least what one of its summands grows by. -/
theorem sum_add_le_sum {s : Finset I} {f g : I → ℕ} {i : I} {d : ℕ} (hi : i ∈ s)
    (hpoint : f i + d ≤ g i) (hrest : ∀ j ∈ s, j ≠ i → f j ≤ g j) :
    ∑ j ∈ s, f j + d ≤ ∑ j ∈ s, g j := by
  have herase : ∑ j ∈ s.erase i, f j ≤ ∑ j ∈ s.erase i, g j :=
    Finset.sum_le_sum fun j hj =>
      hrest j (Finset.mem_of_mem_erase hj) (Finset.ne_of_mem_erase hj)
  rw [← Finset.add_sum_erase s f hi, ← Finset.add_sum_erase s g hi]
  omega

/-! ## Increments and maxima of the keys -/

/-- The last reading of a key is at most its largest. -/
theorem lastReading_le_maxReading (observations : List O) (k : K) :
    lastReading key read observations k ≤ maxReading key read observations k := by
  unfold lastReading
  cases hlast : (readingsOf key read observations k).getLast? with
  | none => exact Nat.zero_le _
  | some v => exact le_max?_getD 0 (List.mem_of_getLast? hlast)

/-- One more observation raises the maximum of its key by at most its
increment. -/
theorem maxReading_snoc_le (read : O → Option ℕ) (observations : List O) (o : O) :
    maxReading key read (observations ++ [o]) (key o) ≤
      maxReading key read observations (key o) +
        ((read o).getD 0 - lastReading key read observations (key o)) := by
  have hlast : lastReading key read observations (key o) ≤
      maxReading key read observations (key o) := lastReading_le_maxReading _ _
  apply maxReading_le
  intro p hp hkey v hread
  rcases List.mem_append.mp hp with hold | hnew
  · have hle : v ≤ maxReading key read observations (key p) := le_maxReading hold hread
    rw [hkey] at hle
    omega
  · rw [List.mem_singleton.mp hnew] at hread
    rw [hread, Option.getD_some]
    omega

/-- An observation of one key does not raise the maximum of another. -/
theorem maxReading_snoc_of_ne (observations : List O) {o : O} {k : K} (h : k ≠ key o) :
    maxReading key read (observations ++ [o]) k ≤ maxReading key read observations k := by
  apply maxReading_le
  rintro p hp rfl v hread
  rcases List.mem_append.mp hp with hold | hnew
  · exact le_maxReading hold hread
  · exact absurd (congrArg key (List.mem_singleton.mp hnew)) h

/-- The increments reach at least the sum of the per-key maxima. -/
theorem sumOfMaxima_le_rise (observations : List O) :
    sumOfMaxima key read observations ≤ rise key read [] observations := by
  induction observations using List.reverseRecOn with
  | nil => exact le_of_eq rfl
  | append_singleton observations o ih =>
      have hkeys : ∀ p ∈ observations, key p ∈ ((observations ++ [o]).map key).toFinset :=
        fun p hp => List.mem_toFinset.mpr
          (List.mem_map_of_mem (List.mem_append_left _ hp))
      have hkey : key o ∈ ((observations ++ [o]).map key).toFinset :=
        List.mem_toFinset.mpr (List.mem_map_of_mem (by simp))
      have hstep := sum_le_sum_add hkey (maxReading_snoc_le read observations o)
        fun k _ hk => maxReading_snoc_of_ne observations hk
      rw [← sumOfMaxima_eq_sum hkeys] at hstep
      rw [rise_snoc]
      exact hstep.trans (Nat.add_le_add_right ih _)

/-! ## Owners that follow one another -/

/-- Any two owners of one key are observed in separate stretches: all
observations of one come before all of the other. -/
def Consecutive (owner : O → I) (keyOf : I → K) (observations : List O) : Prop :=
  ∀ i j, i ≠ j → keyOf i = keyOf j →
    observations.Pairwise (fun a b => ¬(owner a = i ∧ owner b = j)) ∨
      observations.Pairwise (fun a b => ¬(owner a = j ∧ owner b = i))

/-- A list in which nothing outside a predicate follows something inside it. -/
theorem filter_not_append_filter {p : O → Bool} {xs : List O}
    (h : xs.Pairwise fun a b => p a → p b) :
    (xs.filter fun x => !p x) ++ xs.filter p = xs := by
  induction xs with
  | nil => rfl
  | cons x xs ih =>
      rw [List.pairwise_cons] at h
      by_cases hx : p x = true
      · have hall : ∀ y ∈ xs, p y = true := fun y hy => h.1 y hy hx
        have hnone : (xs.filter fun y => !p y) = [] :=
          List.filter_eq_nil_iff.mpr fun y hy => by simp [hall y hy]
        rw [List.filter_cons_of_neg (by simpa using hx), List.filter_cons_of_pos hx, hnone,
          List.filter_eq_self.mpr hall]
        rfl
      · rw [List.filter_cons_of_pos (by simpa using hx), List.filter_cons_of_neg hx,
          List.cons_append, ih h.2]

section Owners

variable {owner : O → I} {keyOf : I → K}

/-- Once its present owner has exposed a reading, the last reading of a key is
the last one of that owner. -/
theorem lastReading_key_eq_owner {observations : List O} {i : I}
    (hkey : ∀ o ∈ observations, keyOf (owner o) = key o)
    (hlast : observations.Pairwise fun a b =>
      owner a = i → keyOf (owner b) = keyOf i → owner b = i)
    (hexposed : readingsOf owner read observations i ≠ []) :
    lastReading key read observations (keyOf i) = lastReading owner read observations i := by
  have hsplit : (observations.filter (key · = keyOf i)).Pairwise fun a b =>
      decide (owner a = i) → decide (owner b = i) := by
    refine List.Pairwise.imp_of_mem ?_ (hlast.filter _)
    intro a b _ hb himp ha
    rw [List.mem_filter] at hb
    have hshare : keyOf (owner b) = keyOf i := by
      rw [hkey b hb.1]
      exact of_decide_eq_true hb.2
    exact decide_eq_true (himp (of_decide_eq_true ha) hshare)
  have hown : (observations.filter (key · = keyOf i)).filter (owner · = i) =
      observations.filter (owner · = i) := by
    rw [List.filter_filter]
    apply List.filter_congr
    intro o ho
    by_cases hi : owner o = i
    · have hko : key o = keyOf i := by rw [← hkey o ho, hi]
      simp [hi, hko]
    · simp [hi]
  have hreadings : ∃ earlier, readingsOf key read observations (keyOf i) =
      earlier ++ readingsOf owner read observations i := by
    refine ⟨((observations.filter (key · = keyOf i)).filter
      fun o => !decide (owner o = i)).filterMap read, ?_⟩
    rw [readingsOf, readingsOf, ← hown, ← List.filterMap_append,
      filter_not_append_filter hsplit]
  rcases hreadings with ⟨earlier, hreadings⟩
  unfold lastReading
  rw [hreadings, List.getLast?_append_of_ne_nil _ hexposed]

omit [DecidableEq K] in
/-- Whatever precedes an observation of an owner on its key cannot come after
another observation of that owner. -/
theorem Consecutive.not_after {observations : List O} {o : O}
    (h : Consecutive owner keyOf (observations ++ [o])) :
    observations.Pairwise fun a b =>
      owner a = owner o → keyOf (owner b) = keyOf (owner o) → owner b = owner o := by
  rw [List.pairwise_iff_getElem]
  intro p q hp hq hpq ha hshare
  by_contra hne
  rcases h (owner observations[q]) (owner o) hne hshare with hbefore | hafter
  · -- The observation at `q` precedes `o`.
    rw [List.pairwise_append] at hbefore
    exact hbefore.2.2 _ (List.getElem_mem hq) o (by simp) ⟨rfl, rfl⟩
  · -- The observation at `p` belongs to the owner of `o` and precedes the one at `q`.
    rw [List.pairwise_append, List.pairwise_iff_getElem] at hafter
    exact hafter.1 p q hp hq hpq ⟨ha, rfl⟩

omit [DecidableEq K] [DecidableEq I] in
/-- Owners that follow each other do so in every initial stretch. -/
theorem Consecutive.of_append {xs ys : List O} (h : Consecutive owner keyOf (xs ++ ys)) :
    Consecutive owner keyOf xs := by
  intro i j hij hshare
  rcases h i j hij hshare with hpair | hpair
  · exact Or.inl (List.pairwise_append.mp hpair).1
  · exact Or.inr (List.pairwise_append.mp hpair).1

/-- One more observation raises the maximum of its owner by at least its
increment. -/
theorem maxReading_owner_snoc {observations : List O} {o : O}
    (hkey : ∀ p ∈ observations ++ [o], keyOf (owner p) = key p)
    (hcons : Consecutive owner keyOf (observations ++ [o]))
    (hmono : Nondecreasing owner read observations) :
    maxReading owner read observations (owner o) +
        ((read o).getD 0 - lastReading key read observations (key o)) ≤
      maxReading owner read (observations ++ [o]) (owner o) := by
  have hgrow : maxReading owner read observations (owner o) ≤
      maxReading owner read (observations ++ [o]) (owner o) :=
    maxReading_mono (fun p hp => List.mem_append_left _ hp) _
  cases hread : read o with
  | none => simpa using hgrow
  | some v =>
      have hv : v ≤ maxReading owner read (observations ++ [o]) (owner o) :=
        le_maxReading (by simp) hread
      rw [Option.getD_some]
      by_cases hexposed : readingsOf owner read observations (owner o) = []
      · have hzero : maxReading owner read observations (owner o) = 0 := by
          rw [maxReading, hexposed]
          rfl
        omega
      · have hkeyO : key o = keyOf (owner o) := (hkey o (by simp)).symm
        have hlast : lastReading key read observations (keyOf (owner o)) =
            lastReading owner read observations (owner o) :=
          lastReading_key_eq_owner (fun p hp => hkey p (List.mem_append_left _ hp))
            hcons.not_after hexposed
        rw [hmono.lastReading_eq] at hlast
        rw [hkeyO, hlast]
        omega

/-- The increments reach at most the sum of the per-owner maxima when the owners
of a key follow one another and no owner's reading decreases. -/
theorem rise_le_sumOfMaxima_owner {observations : List O}
    (hkey : ∀ o ∈ observations, keyOf (owner o) = key o)
    (hcons : Consecutive owner keyOf observations)
    (hmono : Nondecreasing owner read observations) :
    rise key read [] observations ≤ sumOfMaxima owner read observations := by
  induction observations using List.reverseRecOn with
  | nil => exact Nat.zero_le _
  | append_singleton observations o ih =>
      have howners : ∀ p ∈ observations,
          owner p ∈ ((observations ++ [o]).map owner).toFinset :=
        fun p hp => List.mem_toFinset.mpr
          (List.mem_map_of_mem (List.mem_append_left _ hp))
      have howner : owner o ∈ ((observations ++ [o]).map owner).toFinset :=
        List.mem_toFinset.mpr (List.mem_map_of_mem (by simp))
      have hstep := sum_add_le_sum howner (maxReading_owner_snoc hkey hcons hmono.of_append)
        fun i _ _ => maxReading_mono (fun p hp => List.mem_append_left _ hp) i
      rw [← sumOfMaxima_eq_sum howners] at hstep
      have hbefore := ih (fun p hp => hkey p (List.mem_append_left _ hp)) hcons.of_append
        hmono.of_append
      rw [rise_snoc]
      exact (Nat.add_le_add_right hbefore _).trans hstep

end Owners

/-! ## Maps that hold last readings -/

/-- Replacing a held value by every present reading keeps the last one. -/
theorem foldl_getD {X : Type*} (readings : List (Option X)) (held : X) :
    readings.foldl (fun held r => r.getD held) held =
      readings.reduceOption.getLast?.getD held := by
  induction readings using List.reverseRecOn with
  | nil => rfl
  | append_singleton readings r ih =>
      rw [List.foldl_append, ih]
      cases r with
      | none => simp [List.reduceOption_append]
      | some v => simp [List.reduceOption_append]

/-- An entry that every present reading replaces holds the last reading. -/
theorem toNat_held_accumulate {V : Type*} {step : V → O → V} {d : V}
    {read : O → Option (BoundedNat cap)} {held : V → BoundedNat cap}
    (hdefault : held d = 0) (hstep : ∀ v o, held (step v o) = (read o).getD (held v))
    (observations : List O) (k : K) :
    (held (((accumulate key step d (∅ : KeyMap K V) observations).lookup k).getD d)).toNat =
      lastReading key (natReading read) observations k := by
  have hloop : ∀ (xs : List O) (v : V), held (xs.foldl step v) =
      (xs.map read).foldl (fun held r => r.getD held) (held v) := by
    intro xs v
    rw [List.foldl_map]
    exact (List.foldl_hom held fun v o => (hstep v o).symm).symm
  rw [lookup_accumulate_getD, hloop, foldl_getD, lastReading, readingsOf_natReading,
    List.getLast?_map, List.reduceOption, List.filterMap_map]
  have hentry : held (((∅ : KeyMap K V).lookup k).getD d) = 0 := by simpa using hdefault
  rw [hentry]
  change _ = (Option.map toNat (readingsOf key read observations k).getLast?).getD 0
  unfold readingsOf
  cases hlast : ((observations.filter (key · = k)).filterMap read).getLast? with
  | none => simp [hlast]
  | some v => simp [hlast]

end KeyedMaxima
