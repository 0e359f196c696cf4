import Tricord.Library.BoundedNat
import Tricord.Library.KeyedAccumulation

/-!
# Sums of per-key maxima

A stream of keyed observations carries optional cumulative readings.  The
quantity of interest is the sum, over the keys seen, of the largest reading of
each key.  A map that keeps one running maximum per key computes it, whatever
else its entries hold.

Main results:

- Theorem {lit}`held_foldl`: an entry that every observation raises holds the
  maximum of the present readings.
- Theorem {lit}`total?_values_accumulate`: summing the held maxima over the map
  gives {lit}`totalOfMaxima?`.
- Theorem {lit}`sum_values_accumulate`: the same for a total quantity added in
  an exact monoid.
-/

namespace KeyedMaxima

open BoundedNat KeyedAccumulation

variable {K V O : Type*} [DecidableEq K] {cap : ℕ}

/-- The distinct keys of a stream. -/
def observedKeys (key : O → K) (observations : List O) : List K :=
  (observations.map key).dedup

/-- The present readings of one key, in the order of the stream. -/
def readingsOf {M : Type*} (key : O → K) (read : O → Option M)
    (observations : List O) (k : K) : List M :=
  (observations.filter (key · = k)).filterMap read

/-- The sum, over the observed keys, of the largest present reading. -/
def totalOfMaxima? (key : O → K) (read : O → Option (BoundedNat cap))
    (observations : List O) : Option (BoundedNat cap) :=
  total? ((observedKeys key observations).filterMap fun k =>
    (readingsOf key read observations k).max?)

/-- The observed keys are the keys of the observations. -/
theorem mem_observedKeys {key : O → K} {observations : List O} {k : K} :
    k ∈ observedKeys key observations ↔ k ∈ observations.map key := by
  rw [observedKeys, List.mem_dedup]

/-- No key is listed twice. -/
theorem observedKeys_nodup (key : O → K) (observations : List O) :
    (observedKeys key observations).Nodup :=
  List.nodup_dedup _

/-- The readings of a key over two stretches are those of the one and then those of the other. -/
theorem readingsOf_append {M : Type*} (key : O → K) (read : O → Option M)
    (xs ys : List O) (k : K) :
    readingsOf key read (xs ++ ys) k =
      readingsOf key read xs k ++ readingsOf key read ys k := by
  simp [readingsOf]

/-- Readings of relabelled observations. -/
theorem readingsOf_map {M P : Type*} (key : O → K) (read : O → Option M) (f : P → O)
    (observations : List P) (k : K) :
    readingsOf key read (observations.map f) k =
      readingsOf (key ∘ f) (read ∘ f) observations k := by
  rw [readingsOf, readingsOf, List.filter_map, List.filterMap_map]
  rfl

/-- A reading of a key is the reading of some observation of that key. -/
theorem mem_readingsOf {M : Type*} {key : O → K} {read : O → Option M}
    {observations : List O} {k : K} {v : M} :
    v ∈ readingsOf key read observations k ↔
      ∃ o ∈ observations, key o = k ∧ read o = some v := by
  simp [readingsOf, and_assoc]

/-- The total is present exactly when some reading is. -/
theorem totalOfMaxima?_isSome_iff (key : O → K) {read : O → Option (BoundedNat cap)}
    {observations : List O} :
    (totalOfMaxima? key read observations).isSome ↔
      ∃ o ∈ observations, (read o).isSome := by
  rw [totalOfMaxima?, Option.isSome_iff_ne_none, ne_eq, total?_eq_none_iff]
  constructor
  · intro hne
    rcases List.exists_mem_of_ne_nil _ hne with ⟨v, hv⟩
    rcases List.mem_filterMap.mp hv with ⟨k, _, hmax⟩
    rcases mem_readingsOf.mp (List.max?_mem hmax) with ⟨o, ho, _, hread⟩
    exact ⟨o, ho, by simp [hread]⟩
  · rintro ⟨o, ho, hread⟩
    rcases Option.isSome_iff_exists.mp hread with ⟨v, hv⟩
    have hmem : v ∈ readingsOf key read observations (key o) :=
      mem_readingsOf.mpr ⟨o, ho, rfl, hv⟩
    rcases Option.isSome_iff_exists.mp (List.isSome_max?_of_mem hmem) with ⟨w, hw⟩
    exact List.ne_nil_of_mem (List.mem_filterMap.mpr
      ⟨key o, mem_observedKeys.mpr (List.mem_map_of_mem ho), hw⟩)

/-! ## Maxima with a default -/

section Maxima

variable {M N : Type*} [LinearOrder M] [LinearOrder N]

/-- A running maximum started at the least element. -/
theorem foldl_max_eq_getD {z : M} (hz : ∀ a, z ≤ a) (xs : List M) :
    xs.foldl max z = xs.max?.getD z := by
  cases xs with
  | nil => rfl
  | cons x xs =>
      rw [List.max?_cons', List.foldl_cons, max_eq_right (hz x)]
      rfl

/-- Every value of a list is at most its largest, whatever the default. -/
theorem le_max?_getD {xs : List M} {v : M} (z : M) (hv : v ∈ xs) : v ≤ xs.max?.getD z := by
  rcases Option.isSome_iff_exists.mp (List.isSome_max?_of_mem hv) with ⟨w, hw⟩
  rw [hw]
  exact (List.max?_eq_some_iff.mp hw).2 v hv

/-- A bound of the default and of every value bounds the largest. -/
theorem max?_getD_le {xs : List M} {z b : M} (hz : z ≤ b) (h : ∀ v ∈ xs, v ≤ b) :
    xs.max?.getD z ≤ b := by
  cases hmax : xs.max? with
  | none => exact hz
  | some v => exact h v (List.max?_mem hmax)

/-- A list whose every element is below one of another list has the smaller
maximum, and a maximum only if the other one has. -/
theorem max?_mono {xs ys : List M} (h : ∀ v ∈ xs, ∃ w ∈ ys, v ≤ w) : xs.max? ≤ ys.max? := by
  cases hxs : xs.max? with
  | none => exact Option.none_le
  | some v =>
      rcases h v (List.max?_mem hxs) with ⟨w, hw, hvw⟩
      rcases Option.isSome_iff_exists.mp (List.isSome_max?_of_mem hw) with ⟨top, htop⟩
      rw [htop, Option.some_le_some]
      exact hvw.trans ((List.max?_eq_some_iff.mp htop).2 w hw)

/-- A bound of every value bounds the largest one, if there is one. -/
theorem max?_le_some {xs : List M} {b : M} (h : ∀ v ∈ xs, v ≤ b) : xs.max? ≤ some b := by
  cases hxs : xs.max? with
  | none => exact Option.none_le
  | some v => exact Option.some_le_some.mpr (h v (List.max?_mem hxs))

/-- A monotone function commutes with taking the maximum. -/
theorem max?_map {f : M → N} (hf : Monotone f) (xs : List M) :
    (xs.map f).max? = xs.max?.map f := by
  cases xs with
  | nil => rfl
  | cons x xs =>
      rw [List.map_cons, List.max?_cons', List.max?_cons', List.foldl_map, Option.map_some]
      exact congrArg some (List.foldl_hom f fun a b => (hf.map_max).symm)

end Maxima

/-! ## Maps that hold running maxima -/

section Accumulate

variable (key : O → K) (step : V → O → V) (d : V)

/-- The observed keys enumerate the keys of the accumulated map. -/
theorem mem_observedKeys_iff_mem_accumulate (observations : List O) (k : K) :
    k ∈ observedKeys key observations ↔
      k ∈ accumulate key step d (∅ : KeyMap K V) observations := by
  rw [mem_observedKeys, mem_accumulate]
  simp

/-- Up to order, the values of the accumulated map are the per-key folds. -/
theorem values_accumulate_perm (observations : List O) :
    (values (accumulate key step d (∅ : KeyMap K V) observations)).Perm
      ((observedKeys key observations).map fun k =>
        (observations.filter (key · = k)).foldl step d) := by
  have hperm := values_perm (observedKeys_nodup key observations)
    (mem_observedKeys_iff_mem_accumulate key step d observations) d
  refine hperm.trans (List.Perm.of_eq ?_)
  apply List.map_congr_left
  intro k _
  rw [lookup_accumulate_getD]
  simp

variable {key step d} {read : O → Option (BoundedNat cap)} {held : V → Option (BoundedNat cap)}

/-- An entry that is raised by every observation holds the maximum. -/
theorem held_foldl (hdefault : held d = none)
    (hstep : ∀ v o, held (step v o) = raise (held v) (read o)) (observations : List O) :
    held (observations.foldl step d) = (observations.filterMap read).max? := by
  have hloop : ∀ v, held (observations.foldl step v) =
      (observations.map read).foldl raise (held v) := by
    intro v
    rw [List.foldl_map]
    exact (List.foldl_hom held fun v o => (hstep v o).symm).symm
  rw [hloop, hdefault, foldl_raise, List.reduceOption, List.filterMap_map]
  rfl

/-- Summing the held maxima over the whole map. -/
theorem total?_values_accumulate (hdefault : held d = none)
    (hstep : ∀ v o, held (step v o) = raise (held v) (read o)) (observations : List O) :
    total? ((values (accumulate key step d (∅ : KeyMap K V) observations)).filterMap held) =
      totalOfMaxima? key read observations := by
  rw [total?_perm ((values_accumulate_perm key step d observations).filterMap held),
    List.filterMap_map]
  congr 1
  apply List.filterMap_congr
  intro k _
  exact held_foldl hdefault hstep _

/-- Summing an exact weight over the whole map. -/
theorem sum_values_accumulate {M : Type*} [AddCommMonoid M] (weight : V → M)
    (observations : List O) :
    ((values (accumulate key step d (∅ : KeyMap K V) observations)).map weight).sum =
      ((observedKeys key observations).map fun k =>
        weight ((observations.filter (key · = k)).foldl step d)).sum := by
  rw [((values_accumulate_perm key step d observations).map weight).sum_eq, List.map_map]
  rfl

end Accumulate

end KeyedMaxima
