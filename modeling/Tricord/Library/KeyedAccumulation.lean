import Mathlib.Data.List.AList
import Mathlib.Data.List.Perm.Basic
import Mathlib.Data.List.Dedup

/-!
# Keyed accumulation

A finite map is grown by a stream of observations: every observation updates
the entry of its own key and creates it from a default value when it is
missing.  This is the loop written {lit}`*map.entry(key).or_default()` in a
language with mutable maps.

Main results:

- Theorem {lit}`lookup_accumulate`: the entry of a key is the fold over the
  observations of that key alone.
- Theorem {lit}`values_perm`: the values of a map are, up to order, the entries
  of any duplicate-free enumeration of its keys.
- Theorem {lit}`forall_lookup_accumulate`: the invariant rule for the entries.
- Theorem {lit}`Extends.accumulate`: no entry is removed, and every entry moves
  along a relation that each update respects.
- Theorem {lit}`SameEntries.accumulate`: where the keys are distinct, the order of
  the observations makes no difference to the entries.
-/

namespace KeyedAccumulation

/-- A finite map with at most one entry for each key. -/
abbrev KeyMap (K V : Type*) := AList fun _ : K => V

variable {K V O : Type*} [DecidableEq K]

/-! ## One update -/

/-- Update the entry of {lit}`k`, creating it from the default if missing. -/
def upsert (m : KeyMap K V) (k : K) (d : V) (f : V → V) : KeyMap K V :=
  m.insert k (f ((m.lookup k).getD d))

/-- The updated key holds the new value. -/
@[simp]
theorem lookup_upsert_self (m : KeyMap K V) (k : K) (d : V) (f : V → V) :
    (upsert m k d f).lookup k = some (f ((m.lookup k).getD d)) := by
  simp [upsert]

/-- Every other key keeps its value. -/
theorem lookup_upsert_ne {m : KeyMap K V} {k k' : K} (h : k' ≠ k) (d : V)
    (f : V → V) : (upsert m k d f).lookup k' = m.lookup k' := by
  rw [upsert, AList.lookup_insert_ne h]

/-- An update adds its key and removes none. -/
@[simp]
theorem mem_upsert {m : KeyMap K V} {k k' : K} {d : V} {f : V → V} :
    k' ∈ upsert m k d f ↔ k' = k ∨ k' ∈ m := by
  rw [upsert, AList.mem_insert]

/-! ## A stream of updates -/

/-- Fold a stream of observations into a map, each under its own key. -/
def accumulate (key : O → K) (step : V → O → V) (d : V) (m : KeyMap K V)
    (observations : List O) : KeyMap K V :=
  observations.foldl (fun m o => upsert m (key o) d fun v => step v o) m

section Accumulate

variable (key : O → K) (step : V → O → V) (d : V)

@[simp]
theorem accumulate_nil (m : KeyMap K V) : accumulate key step d m [] = m :=
  rfl

/-- The first observation is accumulated before the others. -/
theorem accumulate_cons (m : KeyMap K V) (o : O) (observations : List O) :
    accumulate key step d m (o :: observations) =
      accumulate key step d (upsert m (key o) d fun v => step v o) observations :=
  rfl

/-- Observations can be accumulated in two batches. -/
theorem accumulate_append (m : KeyMap K V) (xs ys : List O) :
    accumulate key step d m (xs ++ ys) =
      accumulate key step d (accumulate key step d m xs) ys :=
  List.foldl_append

/-- A key is present when it was before or when it was observed. -/
theorem mem_accumulate {m : KeyMap K V} {observations : List O} {k : K} :
    k ∈ accumulate key step d m observations ↔
      k ∈ m ∨ k ∈ observations.map key := by
  induction observations generalizing m with
  | nil => simp
  | cons o observations ih =>
      rw [accumulate_cons, ih, mem_upsert, List.map_cons, List.mem_cons]
      tauto

/-- The entry of a key depends only on the observations of that key. -/
theorem lookup_accumulate (m : KeyMap K V) (observations : List O) (k : K) :
    (accumulate key step d m observations).lookup k =
      if observations.filter (key · = k) = [] then m.lookup k
      else some ((observations.filter (key · = k)).foldl step ((m.lookup k).getD d)) := by
  induction observations generalizing m with
  | nil => simp
  | cons o observations ih =>
      rw [accumulate_cons, ih]
      by_cases hk : key o = k
      · subst hk
        rw [lookup_upsert_self, List.filter_cons_of_pos (by simp)]
        by_cases hrest : observations.filter (key · = key o) = [] <;> simp [hrest]
      · rw [lookup_upsert_ne (Ne.symm hk), List.filter_cons_of_neg (by simpa using hk)]

/-- Reading a missing entry as the default, an entry is a plain fold. -/
theorem lookup_accumulate_getD (m : KeyMap K V) (observations : List O) (k : K) :
    ((accumulate key step d m observations).lookup k).getD d =
      (observations.filter (key · = k)).foldl step ((m.lookup k).getD d) := by
  rw [lookup_accumulate]
  split
  next hnone => rw [hnone, List.foldl_nil]
  next => rfl

/-- What holds of every entry, and is preserved by every observation of its key,
holds of every entry afterwards. -/
theorem forall_lookup_accumulate {key step d} {P : K → V → Prop} {m : KeyMap K V}
    {observations : List O} (hm : ∀ k v, m.lookup k = some v → P k v)
    (hd : ∀ o ∈ observations, P (key o) d)
    (hstep : ∀ o ∈ observations, ∀ v, P (key o) v → P (key o) (step v o)) :
    ∀ k v, (accumulate key step d m observations).lookup k = some v → P k v := by
  induction observations generalizing m with
  | nil => exact hm
  | cons o observations ih =>
      rw [accumulate_cons]
      refine ih ?_ (fun p hp => hd p (List.mem_cons_of_mem o hp))
        (fun p hp => hstep p (List.mem_cons_of_mem o hp))
      intro k v hv
      by_cases hk : k = key o
      · subst hk
        rw [lookup_upsert_self, Option.some_inj] at hv
        rw [← hv]
        apply hstep o (List.mem_cons_self ..)
        cases hold : m.lookup (key o) with
        | none => exact hd o (List.mem_cons_self ..)
        | some old => exact hm (key o) old hold
      · rw [lookup_upsert_ne hk] at hv
        exact hm k v hv

end Accumulate

/-! ## Maps that grow -/

/-- Every entry of the first map is still there in the second, and related to what
it was. -/
def Extends (r : V → V → Prop) (m m' : KeyMap K V) : Prop :=
  ∀ k v, m.lookup k = some v → ∃ w, m'.lookup k = some w ∧ r v w

section Extends

variable {r : V → V → Prop} {m m' m'' : KeyMap K V}

theorem Extends.refl (hr : ∀ v, r v v) (m : KeyMap K V) : Extends r m m :=
  fun _ v hv => ⟨v, hv, hr v⟩

theorem Extends.trans (hr : ∀ {u v w}, r u v → r v w → r u w) (h : Extends r m m')
    (h' : Extends r m' m'') : Extends r m m'' := by
  intro k u hu
  rcases h k u hu with ⟨v, hv, huv⟩
  rcases h' k v hv with ⟨w, hw, hvw⟩
  exact ⟨w, hw, hr huv hvw⟩

/-- An extension keeps every key. -/
theorem Extends.mem (h : Extends r m m') {k : K} (hk : k ∈ m) : k ∈ m' := by
  rcases Option.isSome_iff_exists.mp (AList.lookup_isSome.mpr hk) with ⟨v, hv⟩
  rcases h k v hv with ⟨w, hw, _⟩
  exact AList.lookup_isSome.mp (by rw [hw]; rfl)

/-- A stream of updates removes no entry, and takes every entry to one that the
relation allows, if each update does. -/
theorem Extends.accumulate (hrefl : ∀ v, r v v) (htrans : ∀ {u v w}, r u v → r v w → r u w)
    (key : O → K) {step : V → O → V} (hstep : ∀ v o, r v (step v o)) (d : V)
    (m : KeyMap K V) (observations : List O) :
    Extends r m (accumulate key step d m observations) := by
  induction observations generalizing m with
  | nil => exact Extends.refl hrefl m
  | cons o observations ih =>
      refine Extends.trans htrans ?_ (ih _)
      intro k v hv
      by_cases hk : k = key o
      · subst hk
        refine ⟨step v o, ?_, hstep v o⟩
        rw [lookup_upsert_self, hv, Option.getD_some]
      · exact ⟨v, by rw [lookup_upsert_ne hk, hv], hrefl v⟩

/-- What an observation establishes of the entry of its key, and no later
observation destroys, holds of that entry in the end. -/
theorem exists_lookup_accumulate (key : O → K) {step : V → O → V} {d : V} {Q : V → Prop}
    {o : O} {observations : List O} (ho : o ∈ observations) (hnow : ∀ v, Q (step v o))
    (hstay : ∀ v p, Q v → Q (step v p)) (m : KeyMap K V) :
    ∃ v, (accumulate key step d m observations).lookup (key o) = some v ∧ Q v := by
  rcases List.append_of_mem ho with ⟨xs, ys, rfl⟩
  have hextends := Extends.accumulate (r := fun v w => Q v → Q w) (fun _ hv => hv)
    (fun huv hvw hu => hvw (huv hu)) key (fun v p => hstay v p) d
    (upsert (accumulate key step d m xs) (key o) d fun v => step v o) ys
  rcases hextends (key o) _ (lookup_upsert_self _ _ _ _) with ⟨v, hv, hQ⟩
  refine ⟨v, ?_, hQ (hnow _)⟩
  rw [accumulate_append, accumulate_cons]
  exact hv

end Extends

/-! ## The values of a map -/

/-- The values of a map, in the order of its entries. -/
def values (m : KeyMap K V) : List V :=
  m.entries.map Sigma.snd

omit [DecidableEq K] in
/-- An empty map has no values. -/
@[simp]
theorem values_empty : values (∅ : KeyMap K V) = [] :=
  rfl

/-- The values are what is found under the keys. -/
theorem values_eq_map_keys (m : KeyMap K V) (d : V) :
    values m = m.keys.map fun k => (m.lookup k).getD d := by
  rw [values, AList.keys, List.keys, List.map_map]
  apply List.map_congr_left
  intro entry hentry
  have hlookup : m.lookup entry.1 = some entry.2 :=
    AList.mem_lookup_iff.mpr hentry
  simp [hlookup]

/-- The values are the entries of any enumeration of the keys. -/
theorem values_perm {m : KeyMap K V} {ks : List K} (hnodup : ks.Nodup)
    (hmem : ∀ k, k ∈ ks ↔ k ∈ m) (d : V) :
    (values m).Perm (ks.map fun k => (m.lookup k).getD d) := by
  rw [values_eq_map_keys m d]
  apply List.Perm.map
  rw [List.perm_ext_iff_of_nodup m.keys_nodup hnodup]
  intro k
  rw [hmem, AList.mem_keys]

/-! ## Maps with the same entries -/

/-- The two maps hold the same entries, perhaps in another order. -/
def SameEntries (m m' : KeyMap K V) : Prop :=
  ∀ k, m.lookup k = m'.lookup k

theorem SameEntries.refl (m : KeyMap K V) : SameEntries m m :=
  fun _ => rfl

theorem SameEntries.symm {m m' : KeyMap K V} (h : SameEntries m m') : SameEntries m' m :=
  fun k => (h k).symm

theorem SameEntries.trans {m m' m'' : KeyMap K V} (h : SameEntries m m')
    (h' : SameEntries m' m'') : SameEntries m m'' :=
  fun k => (h k).trans (h' k)

/-- Another order of the entries is the same map. -/
theorem SameEntries.of_perm {m m' : KeyMap K V} (h : m.entries.Perm m'.entries) :
    SameEntries m m' :=
  fun _ => AList.perm_lookup h

/-- The values of the same map, in any two orders. -/
theorem SameEntries.values_perm {m m' : KeyMap K V} (h : SameEntries m m') (d : V) :
    (values m).Perm (values m') := by
  have hkeys : ∀ k, k ∈ m'.keys ↔ k ∈ m := by
    intro k
    rw [← AList.mem_keys, ← AList.lookup_isSome, ← AList.lookup_isSome, h k]
  have hmap : (m'.keys.map fun k => (m.lookup k).getD d) =
      m'.keys.map fun k => (m'.lookup k).getD d :=
    List.map_congr_left fun k _ => by rw [h k]
  rw [values_eq_map_keys m' d, ← hmap]
  exact KeyedAccumulation.values_perm m'.keys_nodup hkeys d

/-- Where the keys are distinct, reordering does not change what one key sees. -/
theorem filter_eq_of_perm {key : O → K} {xs ys : List O} (h : xs.Perm ys)
    (hkeys : (xs.map key).Nodup) (k : K) :
    xs.filter (key · = k) = ys.filter (key · = k) := by
  induction h with
  | nil => rfl
  | cons o _ ih =>
      rw [List.map_cons, List.nodup_cons] at hkeys
      rw [List.filter_cons, List.filter_cons, ih hkeys.2]
  | swap o p xs =>
      rw [List.map_cons, List.map_cons, List.nodup_cons] at hkeys
      have hne : key p ≠ key o := fun heq => hkeys.1 (by simp [heq])
      by_cases ho : key o = k
      · have hp : key p ≠ k := fun heq => hne (heq.trans ho.symm)
        simp [ho, hp]
      · simp [List.filter_cons, ho]
  | trans hxy _ ihx ihy =>
      exact (ihx hkeys).trans (ihy ((hxy.map key).nodup_iff.mp hkeys))

/-- Where the keys are distinct, the order of the observations makes no difference
to the entries. -/
theorem SameEntries.accumulate {m m' : KeyMap K V} (h : SameEntries m m') {xs ys : List O}
    (key : O → K) (step : V → O → V) (d : V) (hperm : xs.Perm ys)
    (hkeys : (xs.map key).Nodup) :
    SameEntries (accumulate key step d m xs) (accumulate key step d m' ys) := by
  intro k
  rw [lookup_accumulate, lookup_accumulate, filter_eq_of_perm hperm hkeys, h k]

end KeyedAccumulation
