import Tricord.Library.KeyedMaxima
import Mathlib.Algebra.Order.BigOperators.Group.Finset

/-!
# Exact sums of per-key maxima

The unclamped counterpart of {lit}`totalOfMaxima?`: the sum of the largest
reading of each key in an ordered monoid whose elements are all non-negative.
It is monotone in the set of observations, and the saturating total is its
clamp.

Main results:

- Theorem {lit}`sumOfMaxima_mono`: more observations never lower the sum.
- Theorem {lit}`totalOfMaxima?_eq`: the saturating total is the clamped exact
  sum, present exactly when some reading is.
-/

namespace KeyedMaxima

open BoundedNat

variable {K O : Type*} [DecidableEq K] {cap : ℕ}

/-- The observed keys as a set are the keys of the observations as a set. -/
theorem toFinset_observedKeys (key : O → K) (observations : List O) :
    (observedKeys key observations).toFinset = (observations.map key).toFinset := by
  ext k
  rw [List.mem_toFinset, List.mem_toFinset, mem_observedKeys]

/-! ## The exact sum -/

section Maxima

variable {M : Type*} [AddCommMonoid M] [LinearOrder M]

/-- The largest present reading of a key, zero when there is none. -/
def maxReading (key : O → K) (read : O → Option M) (observations : List O) (k : K) : M :=
  ((readingsOf key read observations k).max?).getD 0

/-- The sum of the largest readings of all observed keys. -/
def sumOfMaxima (key : O → K) (read : O → Option M) (observations : List O) : M :=
  ∑ k ∈ (observations.map key).toFinset, maxReading key read observations k

variable {key : O → K} {read : O → Option M}

/-- No reading exceeds the maximum of its key. -/
theorem le_maxReading {observations : List O} {o : O} {v : M} (ho : o ∈ observations)
    (hread : read o = some v) : v ≤ maxReading key read observations (key o) :=
  le_max?_getD 0 (mem_readingsOf.mpr ⟨o, ho, rfl, hread⟩)

/-- A key without observations has the maximum zero. -/
theorem maxReading_eq_zero {observations : List O} {k : K}
    (h : k ∉ observations.map key) : maxReading key read observations k = 0 := by
  have hnone : readingsOf key read observations k = [] := by
    apply List.eq_nil_iff_forall_not_mem.mpr
    intro v hv
    rcases mem_readingsOf.mp hv with ⟨o, ho, hkey, _⟩
    exact h (List.mem_map.mpr ⟨o, ho, hkey⟩)
  rw [maxReading, hnone]
  rfl

/-- Keys that were not observed contribute nothing. -/
theorem sumOfMaxima_eq_sum {observations : List O} {s : Finset K}
    (hs : ∀ o ∈ observations, key o ∈ s) :
    sumOfMaxima key read observations = ∑ k ∈ s, maxReading key read observations k := by
  apply Finset.sum_subset
  · intro k hk
    rcases List.mem_map.mp (List.mem_toFinset.mp hk) with ⟨o, ho, rfl⟩
    exact hs o ho
  · intro k _ hk
    exact maxReading_eq_zero fun hmem => hk (List.mem_toFinset.mpr hmem)

/-- Maxima of mapped observations are maxima under the composed key and reading. -/
theorem sumOfMaxima_map {P : Type*} (key : O → K) (read : O → Option M) (f : P → O)
    (observations : List P) :
    sumOfMaxima key read (observations.map f) =
      sumOfMaxima (key ∘ f) (read ∘ f) observations := by
  unfold sumOfMaxima maxReading
  rw [List.map_map]
  exact Finset.sum_congr rfl fun k _ => by rw [readingsOf_map]

variable [CanonicallyOrderedAdd M]

/-- A bound of all readings of a key bounds its maximum. -/
theorem maxReading_le {observations : List O} {k : K} {b : M}
    (h : ∀ o ∈ observations, key o = k → ∀ v, read o = some v → v ≤ b) :
    maxReading key read observations k ≤ b := by
  apply max?_getD_le zero_le
  intro v hv
  rcases mem_readingsOf.mp hv with ⟨o, ho, hkey, hread⟩
  exact h o ho hkey v hread

/-- More observations do not lower a maximum. -/
theorem maxReading_mono {xs ys : List O} (h : ∀ o ∈ xs, o ∈ ys) (k : K) :
    maxReading key read xs k ≤ maxReading key read ys k := by
  apply maxReading_le
  rintro o ho rfl v hread
  exact le_maxReading (h o ho) hread

/-- Observing more never lowers the sum of the maxima. -/
theorem sumOfMaxima_mono [IsOrderedAddMonoid M] {xs ys : List O} (h : ∀ o ∈ xs, o ∈ ys) :
    sumOfMaxima key read xs ≤ sumOfMaxima key read ys := by
  have hkeys : ∀ o ∈ xs, key o ∈ (ys.map key).toFinset := fun o ho =>
    List.mem_toFinset.mpr (List.mem_map_of_mem (h o ho))
  rw [sumOfMaxima_eq_sum hkeys]
  exact Finset.sum_le_sum fun k _ => maxReading_mono h k

end Maxima

/-! ## Saturating totals -/

/-- The largest value is the largest of the values as naturals. -/
theorem toNat_max?_getD (xs : List (BoundedNat cap)) :
    (xs.max?.getD 0).toNat = ((xs.map toNat).max?).getD 0 := by
  rw [max?_map toNat_mono]
  cases xs.max? <;> rfl

/-- The reading as an unbounded natural. -/
def natReading (read : O → Option (BoundedNat cap)) (o : O) : Option ℕ :=
  (read o).map toNat

/-- A reading is there as a natural exactly when it is there. -/
theorem natReading_isSome (read : O → Option (BoundedNat cap)) (o : O) :
    (natReading read o).isSome = (read o).isSome := by
  simp [natReading]

/-- Natural readings are the images of the bounded ones. -/
theorem readingsOf_natReading (key : O → K) (read : O → Option (BoundedNat cap))
    (observations : List O) (k : K) :
    readingsOf key (natReading read) observations k =
      (readingsOf key read observations k).map toNat := by
  rw [readingsOf, readingsOf, List.map_filterMap]
  rfl

/-- Reading an absent total as zero, the saturating total is the clamped sum. -/
theorem totalOfMaxima?_getD (key : O → K) (read : O → Option (BoundedNat cap))
    (observations : List O) :
    (totalOfMaxima? key read observations).getD 0 =
      clamp (sumOfMaxima key (natReading read) observations) := by
  rw [totalOfMaxima?, total?_getD, total, sum_toNat_filterMap]
  congr 1
  rw [← List.sum_toFinset _ (observedKeys_nodup key observations),
    toFinset_observedKeys, sumOfMaxima]
  apply Finset.sum_congr rfl
  intro k _
  rw [toNat_max?_getD, maxReading, readingsOf_natReading]

/-- The saturating total is present exactly when some reading is, and then is
the clamped exact sum. -/
theorem totalOfMaxima?_eq (key : O → K) (read : O → Option (BoundedNat cap))
    (observations : List O) :
    totalOfMaxima? key read observations =
      if ∃ o ∈ observations, (read o).isSome then
        some (clamp (sumOfMaxima key (natReading read) observations))
      else none := by
  rw [← totalOfMaxima?_getD]
  split
  next hsome =>
    rcases Option.isSome_iff_exists.mp ((totalOfMaxima?_isSome_iff key).mpr hsome) with ⟨v, hv⟩
    rw [hv]
    rfl
  next hnone =>
    exact Option.not_isSome_iff_eq_none.mp fun h => hnone ((totalOfMaxima?_isSome_iff key).mp h)

/-- Observing more never lowers the saturating total nor makes it vanish. -/
theorem totalOfMaxima?_mono {key : O → K} {read : O → Option (BoundedNat cap)}
    {xs ys : List O} (h : ∀ o ∈ xs, o ∈ ys) :
    totalOfMaxima? key read xs ≤ totalOfMaxima? key read ys := by
  rw [totalOfMaxima?_eq, totalOfMaxima?_eq]
  by_cases hsome : ∃ o ∈ xs, (read o).isSome
  · have hsome' : ∃ o ∈ ys, (read o).isSome := by
      rcases hsome with ⟨o, ho, hread⟩
      exact ⟨o, h o ho, hread⟩
    rw [if_pos hsome, if_pos hsome', Option.some_le_some]
    exact clamp_mono (sumOfMaxima_mono h)
  · rw [if_neg hsome]
    exact Option.none_le

end KeyedMaxima
