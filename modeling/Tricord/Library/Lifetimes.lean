import Tricord.Library.SumOfMaxima

/-!
# Owners that share keys

Every observation of a stream has an owner, every owner has one key, and
several owners may share a key.  An accumulator can see the keys only.  This
module compares what it computes, the sum of the per-key maxima, with what it
stands for, the sum of the last readings of the owners.

Main results:

- Theorem {lit}`Nondecreasing.sumOfLast_eq`: readings that never decrease end at
  their maximum.
- Theorem {lit}`sumOfMaxima_key_le_owner`: the keys never add up to more than
  the owners.
- Theorem {lit}`sumOfMaxima_key_eq_owner_iff`: the two sums agree exactly when
  no key has two owners with a non-zero maximum.
-/

namespace KeyedMaxima

variable {K I O : Type*} [DecidableEq K] [DecidableEq I]

/-! ## Last readings -/

section LastReading

variable {M : Type*} [LinearOrder M]

/-- The readings of every key never decrease along the stream. -/
def Nondecreasing (key : O → K) (read : O → Option M) (observations : List O) : Prop :=
  ∀ k, (readingsOf key read observations k).Pairwise (· ≤ ·)

/-- Readings that never decrease do not do so in any initial stretch. -/
theorem Nondecreasing.of_append {key : O → K} {read : O → Option M} {xs ys : List O}
    (h : Nondecreasing key read (xs ++ ys)) : Nondecreasing key read xs := by
  intro k
  have hk := h k
  rw [readingsOf_append, List.pairwise_append] at hk
  exact hk.1

variable [AddCommMonoid M]

/-- The last present reading of a key, zero when there is none. -/
def lastReading (key : O → K) (read : O → Option M) (observations : List O) (k : K) : M :=
  ((readingsOf key read observations k).getLast?).getD 0

/-- The sum of the last readings of all observed keys. -/
def sumOfLast (key : O → K) (read : O → Option M) (observations : List O) : M :=
  ∑ k ∈ (observations.map key).toFinset, lastReading key read observations k

variable {key : O → K} {read : O → Option M}

/-- Along a non-decreasing stream the last reading is the largest one. -/
theorem Nondecreasing.lastReading_eq {observations : List O}
    (h : Nondecreasing key read observations) (k : K) :
    lastReading key read observations k = maxReading key read observations k := by
  have hsorted := h k
  unfold lastReading maxReading
  cases hrev : (readingsOf key read observations k).getLast? with
  | none => rw [List.getLast?_eq_none_iff.mp hrev]; rfl
  | some v =>
      rcases List.getLast?_eq_some_iff.mp hrev with ⟨front, hfront⟩
      rw [hfront] at hsorted ⊢
      have hle : ∀ w ∈ front ++ [v], w ≤ v := by
        intro w hw
        rcases List.mem_append.mp hw with hw | hw
        · exact (List.pairwise_append.mp hsorted).2.2 w hw v (by simp)
        · exact (List.mem_singleton.mp hw).le
      have hmax : (front ++ [v]).max? = some v :=
        List.max?_eq_some_iff.mpr ⟨by simp, hle⟩
      rw [hmax]

/-- When readings never decrease, the last ones sum up to the same as the largest ones. -/
theorem Nondecreasing.sumOfLast_eq {observations : List O}
    (h : Nondecreasing key read observations) :
    sumOfLast key read observations = sumOfMaxima key read observations :=
  Finset.sum_congr rfl fun k _ => h.lastReading_eq k

end LastReading

/-! ## Maxima of a key and of its owners -/

section Owners

variable {M : Type*} [AddCommMonoid M] [LinearOrder M]

/-- Two owners of one key never both have a non-zero maximum. -/
def SoleContributor (owner : O → I) (keyOf : I → K) (read : O → Option M)
    (observations : List O) : Prop :=
  ∀ i ∈ observations.map owner, ∀ j ∈ observations.map owner, i ≠ j →
    keyOf i = keyOf j →
    maxReading owner read observations i = 0 ∨ maxReading owner read observations j = 0

variable {key : O → K} {owner : O → I} {keyOf : I → K} {read : O → Option M}

/-- The sum over the owners, grouped by key. -/
theorem sumOfMaxima_owner_eq {observations : List O}
    (hkey : ∀ o ∈ observations, keyOf (owner o) = key o) :
    sumOfMaxima owner read observations =
      ∑ k ∈ (observations.map key).toFinset,
        ∑ i ∈ (observations.map owner).toFinset.filter (keyOf · = k),
          maxReading owner read observations i := by
  apply (Finset.sum_fiberwise_of_maps_to _ _).symm
  intro i hi
  rcases List.mem_map.mp (List.mem_toFinset.mp hi) with ⟨o, ho, rfl⟩
  rw [hkey o ho]
  exact List.mem_toFinset.mpr (List.mem_map_of_mem ho)

variable [CanonicallyOrderedAdd M]

/-- The largest reading of an owner is at most that of its key. -/
theorem maxReading_owner_le (read : O → Option M) {observations : List O}
    (hkey : ∀ o ∈ observations, keyOf (owner o) = key o) (i : I) :
    maxReading owner read observations i ≤ maxReading key read observations (keyOf i) := by
  apply maxReading_le
  rintro o ho rfl v hread
  rw [hkey o ho]
  exact le_maxReading ho hread

/-- The largest reading of a key is zero or the largest of one of its owners. -/
theorem maxReading_key_attained (read : O → Option M) {observations : List O}
    (hkey : ∀ o ∈ observations, keyOf (owner o) = key o) (k : K) :
    maxReading key read observations k = 0 ∨
      ∃ i ∈ (observations.map owner).toFinset.filter (keyOf · = k),
        maxReading key read observations k = maxReading owner read observations i := by
  unfold maxReading
  cases hmax : (readingsOf key read observations k).max? with
  | none => exact Or.inl rfl
  | some v =>
      rcases mem_readingsOf.mp (List.max?_mem hmax) with ⟨o, ho, hok, hread⟩
      have hkeyOf : keyOf (owner o) = k := (hkey o ho).trans hok
      refine Or.inr ⟨owner o, ?_, ?_⟩
      · simp only [Finset.mem_filter, List.mem_toFinset]
        exact ⟨List.mem_map_of_mem ho, hkeyOf⟩
      · apply le_antisymm
        · have hle : v ≤ maxReading owner read observations (owner o) :=
            le_maxReading ho hread
          exact hle
        · have hle := maxReading_owner_le read hkey (owner o)
          rw [hkeyOf, maxReading, maxReading, hmax] at hle
          exact hle

variable [IsOrderedCancelAddMonoid M]

/-- A maximum of finitely many values equals their sum exactly when at most one
of them is not zero. -/
theorem eq_sum_iff_of_isMax {s : Finset I} {w : I → M} {m : M} (hle : ∀ i ∈ s, w i ≤ m)
    (hattained : m = 0 ∨ ∃ i ∈ s, m = w i) :
    m = ∑ i ∈ s, w i ↔ ∀ i ∈ s, ∀ j ∈ s, i ≠ j → w i = 0 ∨ w j = 0 := by
  constructor
  · intro hsum i hi j hj hij
    by_contra hboth
    rw [not_or] at hboth
    have hpair : w i + w j ≤ m := by
      rw [hsum, ← Finset.sum_pair hij]
      exact Finset.sum_le_sum_of_subset (by simp [Finset.insert_subset_iff, hi, hj])
    rcases hattained with hzero | ⟨l, hl, hml⟩
    · exact hboth.1 (le_antisymm (hzero ▸ hle i hi) zero_le)
    · -- Some owner other than `l` contributes a positive amount on top of `w l`.
      have hother : ∃ n ∈ s, n ≠ l ∧ w n ≠ 0 := by
        by_cases hil : i = l
        · exact ⟨j, hj, fun hjl => hij (hil.trans hjl.symm), hboth.2⟩
        · exact ⟨i, hi, hil, hboth.1⟩
      rcases hother with ⟨n, hn, hnl, hpos⟩
      have hpair' : w l + w n ≤ w l := by
        calc
          w l + w n = ∑ p ∈ {l, n}, w p := (Finset.sum_pair (Ne.symm hnl)).symm
          _ ≤ ∑ p ∈ s, w p :=
            Finset.sum_le_sum_of_subset (by simp [Finset.insert_subset_iff, hl, hn])
          _ = w l := by rw [← hsum, hml]
      have hnonpos : w n ≤ 0 := (add_le_iff_nonpos_right (w l)).mp hpair'
      exact hpos (le_antisymm hnonpos zero_le)
  · intro hatMostOne
    by_cases hzero : ∀ i ∈ s, w i = 0
    · rw [Finset.sum_eq_zero hzero]
      rcases hattained with h | ⟨l, hl, h⟩
      · exact h
      · rw [h, hzero l hl]
    · push Not at hzero
      rcases hzero with ⟨i, hi, hpos⟩
      have hsum : ∑ j ∈ s, w j = w i :=
        Finset.sum_eq_single_of_mem i hi fun j hj hji =>
          (hatMostOne j hj i hi hji).resolve_right hpos
      rw [hsum]
      apply le_antisymm _ (hle i hi)
      rcases hattained with h | ⟨l, hl, h⟩
      · rw [h]
        exact zero_le
      · by_cases hli : l = i
        · rw [h, hli]
        · rw [h, (hatMostOne l hl i hi hli).resolve_right hpos]
          exact zero_le

/-- The largest reading of a key is at most the sum over its owners. -/
theorem maxReading_key_le_sum {observations : List O}
    (hkey : ∀ o ∈ observations, keyOf (owner o) = key o) (k : K) :
    maxReading key read observations k ≤
      ∑ i ∈ (observations.map owner).toFinset.filter (keyOf · = k),
        maxReading owner read observations i := by
  rcases maxReading_key_attained read hkey k with hzero | ⟨i, hi, heq⟩
  · rw [hzero]
    exact zero_le
  · rw [heq]
    exact Finset.single_le_sum (fun _ _ => zero_le) hi

/-- Per-key maxima never exceed the sum over the owners. -/
theorem sumOfMaxima_key_le_owner {observations : List O}
    (hkey : ∀ o ∈ observations, keyOf (owner o) = key o) :
    sumOfMaxima key read observations ≤ sumOfMaxima owner read observations := by
  rw [sumOfMaxima_owner_eq hkey]
  exact Finset.sum_le_sum fun k _ => maxReading_key_le_sum hkey k

/-- The per-key maxima add up to the sum over the owners exactly when every key
has at most one contributing owner. -/
theorem sumOfMaxima_key_eq_owner_iff {observations : List O}
    (hkey : ∀ o ∈ observations, keyOf (owner o) = key o) :
    sumOfMaxima key read observations = sumOfMaxima owner read observations ↔
      SoleContributor owner keyOf read observations := by
  rw [sumOfMaxima_owner_eq hkey, sumOfMaxima,
    Finset.sum_eq_sum_iff_of_le fun k _ => maxReading_key_le_sum hkey k]
  have hfiber : ∀ k, (maxReading key read observations k =
      ∑ i ∈ (observations.map owner).toFinset.filter (keyOf · = k),
        maxReading owner read observations i) ↔ _ := fun k =>
    eq_sum_iff_of_isMax (fun i hi => by
      rw [← (Finset.mem_filter.mp hi).2]
      exact maxReading_owner_le read hkey i) (maxReading_key_attained read hkey k)
  constructor
  · intro hall i hi j hj hij hshare
    have hmem : keyOf j ∈ (observations.map key).toFinset := by
      rcases List.mem_map.mp hj with ⟨o, ho, rfl⟩
      rw [hkey o ho]
      exact List.mem_toFinset.mpr (List.mem_map_of_mem ho)
    exact (hfiber (keyOf j)).mp (hall _ hmem) i
      (Finset.mem_filter.mpr ⟨List.mem_toFinset.mpr hi, hshare⟩) j
      (Finset.mem_filter.mpr ⟨List.mem_toFinset.mpr hj, rfl⟩) hij
  · intro hsole k _
    rw [hfiber k]
    intro i hi j hj hij
    have hi' := Finset.mem_filter.mp hi
    have hj' := Finset.mem_filter.mp hj
    exact hsole i (List.mem_toFinset.mp hi'.1) j (List.mem_toFinset.mp hj'.1) hij
      (hi'.2.trans hj'.2.symm)

end Owners

end KeyedMaxima
