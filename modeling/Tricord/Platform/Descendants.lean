import Tricord.Library.Worklist
import Tricord.Sampler.State

/-!
# The process-tree walk

Both platforms build a map from parents to children out of the readings of one
pass over the processes, then walk it from the root without a visited set.  The
readings are taken one after another while processes exit, are reparented and
have their PIDs reused, so nothing makes the parent links acyclic.

Main results:

- Theorem {lit}`mem_childrenOf`: the map holds exactly the child links of the
  readings.
- Theorem {lit}`collectDescendants_ends_iff`: the walk ends exactly when no chain
  of child links leads from the root back to the root.
-/

namespace Tricord

open KeyedAccumulation Relation Worklist

/-! ## The walk -/

/-- One reading of a process: its PID and the PID of its parent. -/
structure Stat where
  pid : Pid
  ppid : Pid
deriving DecidableEq

/-- The children of every parent, in the order of the readings. -/
def byParent (table : List Stat) : KeyMap Pid (List Pid) :=
  accumulate Stat.ppid (fun children stat => children ++ [stat.pid]) [] ∅ table

/-- The children recorded for one parent, none when it has no entry. -/
def childrenOf (table : List Stat) (parent : Pid) : List Pid :=
  ((byParent table).lookup parent).getD []

/-- The PIDs of the root and all its transitive descendants.  The readings are
those that succeeded, so a failed pass over the processes is the empty table.
The number of turns of the loop is bounded by the first argument. -/
def collectDescendants (fuel : ℕ) (table : List Stat) (root : Pid) : Option (List Pid) :=
  (Walk.start root).run (childrenOf table) fuel

/-- A child link of the table. -/
def IsParent (table : List Stat) (parent child : Pid) : Prop :=
  { pid := child, ppid := parent } ∈ table

instance (table : List Stat) (parent child : Pid) : Decidable (IsParent table parent child) :=
  inferInstanceAs (Decidable (_ ∈ table))

/-! ## Child links -/

/-- The loop appends the PIDs in the order of the table. -/
theorem foldl_append_pid (stats : List Stat) (children : List Pid) :
    stats.foldl (fun children stat => children ++ [stat.pid]) children =
      children ++ stats.map Stat.pid := by
  induction stats generalizing children with
  | nil => simp
  | cons stat stats ih =>
      rw [List.foldl_cons, ih]
      simp

/-- The children of a process are the PIDs of the entries with this parent. -/
theorem childrenOf_eq (table : List Stat) (parent : Pid) :
    childrenOf table parent = (table.filter (·.ppid = parent)).map Stat.pid := by
  rw [childrenOf, byParent, lookup_accumulate_getD, foldl_append_pid]
  simp

/-- A process is listed as a child exactly when the table says so. -/
theorem mem_childrenOf {table : List Stat} {parent child : Pid} :
    child ∈ childrenOf table parent ↔ IsParent table parent child := by
  rw [childrenOf_eq, List.mem_map]
  constructor
  · rintro ⟨stat, hstat, rfl⟩
    rcases List.mem_filter.mp hstat with ⟨hmem, hparent⟩
    rw [IsParent, ← of_decide_eq_true hparent]
    exact hmem
  · intro hlink
    exact ⟨_, List.mem_filter.mpr ⟨hlink, by simp⟩, rfl⟩

/-- Where PIDs are distinct, every process has one parent. -/
theorem IsParent.unique {table : List Stat} (hpids : (table.map Stat.pid).Nodup)
    (p p' c : Pid) (h : IsParent table p c) (h' : IsParent table p' c) : p = p' :=
  congrArg Stat.ppid (List.inj_on_of_nodup_map hpids h h' rfl)

/-- Only finitely many processes have a parent in a table. -/
theorem finite_children (table : List Stat) : {c | ∃ p, IsParent table p c}.Finite := by
  apply (table.map Stat.pid).finite_toSet.subset
  rintro c ⟨p, hlink⟩
  exact List.mem_map.mpr ⟨_, hlink, rfl⟩

/-! ## When the walk ends -/

/-- The walk ends exactly when the root is accessible along child links. -/
theorem collectDescendants_ends_iff_acc (table : List Stat) (root : Pid) :
    (∃ fuel, (collectDescendants fuel table root).isSome) ↔
      Acc (fun c p => IsParent table p c) root := by
  have hends := Walk.ends_iff (childrenOf table) (Walk.start root)
  simp only [mem_childrenOf, Walk.start, List.mem_singleton, forall_eq] at hends
  exact hends

/-- On a table with distinct PIDs the walk ends exactly when no non-empty chain
of child links leads from the root back to the root. -/
theorem collectDescendants_ends_iff (table : List Stat) (root : Pid)
    (hpids : (table.map Stat.pid).Nodup) :
    (∃ fuel, (collectDescendants fuel table root).isSome) ↔
      ¬TransGen (IsParent table) root root := by
  rw [collectDescendants_ends_iff_acc]
  exact acc_iff_not_transGen (IsParent.unique hpids) (finite_children table)

/-- A root with two children, one of which has a child. -/
theorem collectDescendants_ends_family :
    let table : List Stat :=
      [{ pid := 11, ppid := 10 }, { pid := 12, ppid := 11 }, { pid := 13, ppid := 11 },
        { pid := 14, ppid := 12 }]
    ∃ fuel, (collectDescendants fuel table 11).isSome := by
  intro table
  apply (collectDescendants_ends_iff table 11 (by decide)).mpr
  -- Every link of this table leads to a larger PID.
  have hup : ∀ p c, IsParent table p c → p < c := by
    intro p c hlink
    simp only [table, IsParent, List.mem_cons, Stat.mk.injEq, List.not_mem_nil,
      or_false] at hlink
    rcases hlink with ⟨rfl, rfl⟩ | ⟨rfl, rfl⟩ | ⟨rfl, rfl⟩ | ⟨rfl, rfl⟩ <;> decide
  have hchain : ∀ p c, TransGen (IsParent table) p c → p < c := by
    intro p c hlinks
    induction hlinks with
    | single hlink => exact hup _ _ hlink
    | tail _ hlink ih => exact ih.trans (hup _ _ hlink)
  exact fun hcycle => lt_irrefl _ (hchain 11 11 hcycle)

/-- The parent of the root is read, exits and has its PID given to a child of
the root before that PID is read.  The walk from the root never ends. -/
theorem collectDescendants_never_ends :
    let table : List Stat :=
      [{ pid := 10, ppid := 20 }, { pid := 11, ppid := 10 }, { pid := 20, ppid := 11 }]
    (table.map Stat.pid).Nodup ∧ (0 : Pid) < 11 ∧
      ¬∃ fuel, (collectDescendants fuel table 11).isSome := by
  intro table
  refine ⟨by decide, by decide, ?_⟩
  rw [collectDescendants_ends_iff_acc]
  intro hacc
  have hrecycled : IsParent table 11 20 := by decide
  have hparent : IsParent table 20 10 := by decide
  have hroot : IsParent table 10 11 := by decide
  have hcycle : TransGen (IsParent table) 11 11 :=
    ((TransGen.single hrecycled).tail hparent).tail hroot
  exact not_transGen_self_of_acc hacc (transGen_swap.mpr hcycle)

end Tricord
