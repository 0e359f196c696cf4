import Tricord.Platform.Descendants

/-!
# Sampling a process tree

One sampling pass lists the root and its descendants and reads each listed
process, dropping those that cannot be read.  The single-parent property of a
table of readings makes the walk visit every process of the tree once, although
it keeps no visited set.

Main results:

- Theorem {lit}`treeOrder_collectDescendants`: the walk lists the process tree in
  tree order.
- Theorem {lit}`collectDescendants_visits_tree`: it ends with such a list, and no
  pass over it yields two snapshots of one PID.
-/

namespace Tricord

open Relation Worklist

/-! ## One sampling pass -/

/-- The snapshot of one process, absent when the process has exited or cannot be
read.  The readings do not name the process, the snapshot does. -/
def sampleProcess (read : Pid → Option ProcessSnapshot) (pid : Pid) : Option ProcessSnapshot :=
  (read pid).map fun readings => { readings with pid := pid }

/-- The snapshots of the listed processes that could be read. -/
def sampleTree (fuel : ℕ) (table : List Stat) (read : Pid → Option ProcessSnapshot)
    (root : Pid) : Option (List ProcessSnapshot) :=
  (collectDescendants fuel table root).map fun pids => pids.filterMap (sampleProcess read)

/-- A snapshot bears the PID it was asked for. -/
theorem pid_of_sampleProcess {read : Pid → Option ProcessSnapshot} {pid : Pid}
    {snap : ProcessSnapshot} (h : sampleProcess read pid = some snap) : snap.pid = pid := by
  rcases Option.map_eq_some_iff.mp h with ⟨readings, _, rfl⟩
  rfl

/-- The PIDs of the snapshots are some of the listed PIDs, in their order. -/
theorem pids_filterMap_sampleProcess (read : Pid → Option ProcessSnapshot) (pids : List Pid) :
    ((pids.filterMap (sampleProcess read)).map ProcessSnapshot.pid).Sublist pids := by
  induction pids with
  | nil => exact List.Sublist.slnil
  | cons pid pids ih =>
      cases hread : sampleProcess read pid with
      | none =>
          rw [List.filterMap_cons_none hread]
          exact ih.cons pid
      | some snap =>
          rw [List.filterMap_cons_some hread, List.map_cons, pid_of_sampleProcess hread]
          exact ih.cons_cons pid

/-! ## The listed processes -/

/-- Distinct PIDs in the table give distinct children. -/
theorem nodup_childrenOf {table : List Stat} (hpids : (table.map Stat.pid).Nodup)
    (parent : Pid) : (childrenOf table parent).Nodup := by
  rw [childrenOf_eq]
  exact hpids.sublist (List.filter_sublist.map Stat.pid)

/-- The walk lists the process tree in tree order. -/
theorem treeOrder_collectDescendants {table : List Stat} {root : Pid}
    (hpids : (table.map Stat.pid).Nodup) (hroot : ¬TransGen (IsParent table) root root)
    {fuel : ℕ} {pids : List Pid} (hrun : collectDescendants fuel table root = some pids) :
    TreeOrder (IsParent table) root pids := by
  have hedge : (fun p c => c ∈ childrenOf table p) = IsParent table := by
    funext p c
    exact propext mem_childrenOf
  have horder := Walk.treeOrder_of_run (childrenOf table)
    (fun p p' c hc hc' =>
      IsParent.unique hpids p p' c (mem_childrenOf.mp hc) (mem_childrenOf.mp hc'))
    (hedge.symm ▸ hroot) (nodup_childrenOf hpids) hrun
  rwa [hedge] at horder

/-- On a table with distinct PIDs whose root is not its own descendant, the walk
ends; it lists the root first, every descendant exactly once and after its
parent, and nothing else; and no two snapshots of a pass have the same PID,
whichever processes cannot be read. -/
theorem collectDescendants_visits_tree (table : List Stat) (root : Pid)
    (hpids : (table.map Stat.pid).Nodup) (hroot : ¬TransGen (IsParent table) root root) :
    (∃ fuel, (collectDescendants fuel table root).isSome) ∧
      (∀ fuel pids, collectDescendants fuel table root = some pids →
        TreeOrder (IsParent table) root pids) ∧
      (∀ fuel read snapshots, sampleTree fuel table read root = some snapshots →
        (snapshots.map ProcessSnapshot.pid).Nodup) := by
  refine ⟨?_, fun fuel pids => treeOrder_collectDescendants hpids hroot, ?_⟩
  · rw [collectDescendants_ends_iff_acc]
    exact (acc_iff_not_transGen (IsParent.unique hpids) (finite_children table)).mpr hroot
  · intro fuel read snapshots hsnapshots
    rcases Option.map_eq_some_iff.mp hsnapshots with ⟨pids, hrun, rfl⟩
    have horder := treeOrder_collectDescendants hpids hroot hrun
    exact horder.nodup.sublist (pids_filterMap_sampleProcess read pids)

/-- A root whose parent is not in the table, with two children and a grandchild,
next to a cycle of two other processes. -/
theorem collectDescendants_visits_family :
    let table : List Stat :=
      [{ pid := 30, ppid := 31 }, { pid := 14, ppid := 12 }, { pid := 11, ppid := 10 },
        { pid := 12, ppid := 11 }, { pid := 31, ppid := 30 }, { pid := 13, ppid := 11 }]
    (∃ fuel, (collectDescendants fuel table 11).isSome) ∧
      (∀ fuel pids, collectDescendants fuel table 11 = some pids →
        TreeOrder (IsParent table) 11 pids) ∧
      (∀ fuel read snapshots, sampleTree fuel table read 11 = some snapshots →
        (snapshots.map ProcessSnapshot.pid).Nodup) := by
  intro table
  apply collectDescendants_visits_tree table 11 (by decide)
  intro hcycle
  -- The last link of a cycle comes from process 10, and no link leads there.
  rcases TransGen.tail'_iff.mp hcycle with ⟨parent, hchain, hlink⟩
  have hparent : parent = 10 := by simpa [table, IsParent] using hlink
  subst hparent
  rcases hchain.cases_tail with hroot | ⟨grandparent, _, hlink⟩
  · exact absurd hroot (by decide)
  · simp [table, IsParent] at hlink

example : collectDescendants 9 [{ pid := 14, ppid := 12 }, { pid := 12, ppid := 11 },
    { pid := 31, ppid := 30 }, { pid := 13, ppid := 11 }] 11 = some [11, 12, 13, 14] := by
  decide

end Tricord
