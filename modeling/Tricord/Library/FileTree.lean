import Mathlib.Data.List.Basic
import Mathlib.Tactic.SplitIfs

/-!
# File trees

A tree of directories and files without links.  A path lists the names from its
last component up to the root, so that the tail of a path is its parent and an
ancestor is a suffix.  Operations may be refused, and then leave behind what they
have done so far.

Main results:

- Theorem {lit}`FileTree.dir_of_suffix`: the proper ancestors of what exists are
  directories.
- Theorem {lit}`createDirAll_run`: when a directory can be made together with its
  missing parents, and what that changes.
- Theorem {lit}`writeNew_run`: the same of a new file.
- Theorem {lit}`writeEach_run`: files at unrelated paths that can be written each on
  its own can be written one after another, and keep their contents.
- Theorem {lit}`Footprint.trans`: operations that only write at some paths compose,
  whether they succeed or are refused.
-/

namespace FileTrees

/-- What a path can lead to. -/
inductive Node (α : Type*)
  | dir
  | file (content : α)

instance {α : Type*} (node : Option (Node α)) : Decidable (node = some .dir) :=
  match node with
  | none => isFalse (by simp)
  | some .dir => isTrue rfl
  | some (.file _) => isFalse (by simp)

/-- The nodes of a tree.  Its root is a directory, and so is the parent of
everything that exists. -/
@[ext]
structure FileTree (N α : Type*) where
  node : List N → Option (Node α)
  root : node [] = some .dir
  parent : ∀ name path, node (name :: path) ≠ none → node path = some .dir

namespace FileTree

variable {N α : Type*} [DecidableEq N]

/-- The proper ancestors of what exists are directories. -/
theorem dir_of_suffix (tree : FileTree N α) {x y : List N} (h : x <:+ y) (hne : x ≠ y)
    (hy : tree.node y ≠ none) : tree.node x = some .dir := by
  induction y with
  | nil => exact absurd (List.suffix_nil.mp h) hne
  | cons name parent ih =>
      have hparent := tree.parent name parent hy
      rcases List.suffix_cons_iff.mp h with heq | hsuffix
      · exact absurd heq hne
      · by_cases hx : x = parent
        · exact hx ▸ hparent
        · exact ih hsuffix hx (by simp [hparent])

/-- Put a node into a directory, unless there is a directory in its place. -/
def put (tree : FileTree N α) (name : N) (parent : List N) (node : Node α) : FileTree N α :=
  if h : tree.node parent = some .dir ∧ tree.node (name :: parent) ≠ some .dir then
    { node := Function.update tree.node (name :: parent) (some node)
      root := by
        rw [Function.update_of_ne (by simp)]
        exact tree.root
      parent := by
        intro other path hnode
        have hold : tree.node path = some .dir := by
          by_cases heq : other :: path = name :: parent
          · rw [(List.cons.inj heq).2]
            exact h.1
          · rw [Function.update_of_ne heq] at hnode
            exact tree.parent other path hnode
        rw [Function.update_of_ne]
        · exact hold
        · rintro rfl
          exact h.2 hold }
  else tree

/-- Putting a node into a directory changes this one place. -/
theorem node_put {tree : FileTree N α} {name : N} {parent : List N}
    (hparent : tree.node parent = some .dir) (hplace : tree.node (name :: parent) ≠ some .dir)
    (node : Node α) (x : List N) :
    (tree.put name parent node).node x =
      if x = name :: parent then some node else tree.node x := by
  rw [put, dif_pos ⟨hparent, hplace⟩]
  by_cases hx : x = name :: parent
  · rw [if_pos hx, hx]
    exact Function.update_self _ _ _
  · rw [if_neg hx]
    exact Function.update_of_ne hx _ _

end FileTree

/-! ## Operations -/

/-- Operations on a tree.  A refused operation names the path of its refusal. -/
abbrev FileM (N α : Type) := EStateM (List N) (FileTree N α)

section Operations

variable {N α : Type} [DecidableEq N] (permits : List N → Bool)

/-- Make a directory, unless there is one already. -/
def makeDir : List N → FileM N α Unit
  | [] => pure ()
  | name :: parent => fun tree =>
      if tree.node (name :: parent) = some .dir then .ok () tree
      else if tree.node (name :: parent) = none ∧ tree.node parent = some .dir ∧
          permits (name :: parent) then
        .ok () (tree.put name parent .dir)
      else .error (name :: parent) tree

/-- Make a directory and all its missing parents. -/
def createDirAll : List N → FileM N α Unit
  | [] => pure ()
  | name :: parent => do
      createDirAll parent
      makeDir permits (name :: parent)

/-- Create a file with the given content, or truncate it to that. -/
def create (content : α) : List N → FileM N α Unit
  | [] => throw []
  | name :: parent => fun tree =>
      if tree.node parent = some .dir ∧ tree.node (name :: parent) ≠ some .dir ∧
          permits (name :: parent) then
        .ok () (tree.put name parent (.file content))
      else .error (name :: parent) tree

/-- Change the content of a file. -/
def modifyFile (f : α → α) : List N → FileM N α Unit
  | [] => pure ()
  | name :: parent => fun tree =>
      match tree.node (name :: parent) with
      | some (.file content) => .ok () (tree.put name parent (.file (f content)))
      | _ => .ok () tree

/-- Write a new file, its missing parents made first. -/
def writeNew (content : α) (path : List N) : FileM N α Unit := do
  createDirAll permits path.tail
  create permits content path

/-- Write new files one after another. -/
def writeEach : List (List N × α) → FileM N α Unit
  | [] => pure ()
  | (path, content) :: writes => do
      writeNew permits content path
      writeEach writes

end Operations

/-! ## Making directories -/

/-- Sequencing succeeds exactly when both operations do. -/
theorem bind_ok_iff {ε σ β γ : Type} {x : EStateM ε σ β} {f : β → EStateM ε σ γ} {s s' : σ}
    {c : γ} :
    (x >>= f) s = .ok c s' ↔ ∃ b t, x s = .ok b t ∧ f b t = .ok c s' := by
  change EStateM.bind x f s = _ ↔ _
  unfold EStateM.bind
  cases x s with
  | ok b t =>
      constructor
      · exact fun h => ⟨b, t, rfl, h⟩
      · rintro ⟨b', t', heq, h⟩
        cases heq
        exact h
  | error e t => simp

/-- After a successful operation the next one runs in the tree it leaves. -/
theorem bind_of_ok {ε σ β γ : Type} {x : EStateM ε σ β} {s t : σ} {b : β} (h : x s = .ok b t)
    (f : β → EStateM ε σ γ) : (x >>= f) s = f b t := by
  change EStateM.bind x f s = _
  unfold EStateM.bind
  rw [h]

/-- After a failed operation nothing else runs. -/
theorem bind_of_error {ε σ β γ : Type} {x : EStateM ε σ β} {s t : σ} {e : ε}
    (h : x s = .error e t) (f : β → EStateM ε σ γ) : (x >>= f) s = .error e t := by
  change EStateM.bind x f s = _
  unfold EStateM.bind
  rw [h]

/-- Sequencing fails with the first operation, or with the second after the first. -/
theorem bind_error_iff {ε σ β γ : Type} {x : EStateM ε σ β} {f : β → EStateM ε σ γ} {s s' : σ}
    {e : ε} :
    (x >>= f) s = .error e s' ↔
      x s = .error e s' ∨ ∃ b t, x s = .ok b t ∧ f b t = .error e s' := by
  change EStateM.bind x f s = _ ↔ _
  unfold EStateM.bind
  cases x s with
  | ok b t =>
      constructor
      · exact fun h => Or.inr ⟨b, t, rfl, h⟩
      · rintro (h | ⟨b', t', heq, h⟩)
        · exact absurd h (by simp)
        · cases heq
          exact h
  | error e' t => simp

/-- A path is not an ancestor of its own directory. -/
theorem not_cons_suffix {N : Type*} (name : N) (path : List N) : ¬name :: path <:+ path := by
  intro h
  have hlength := h.length_le
  rw [List.length_cons] at hlength
  omega

section Operations

variable {N α : Type} [DecidableEq N] {permits : List N → Bool} {tree tree' : FileTree N α}

/-- A directory can be made, or is there. -/
def CanMakeDir (permits : List N → Bool) (tree : FileTree N α) (path : List N) : Prop :=
  tree.node path = some .dir ∨ tree.node path = none ∧ permits path

/-- A directory that can be made is made, and nothing else changes. -/
theorem makeDir_run {name : N} {parent : List N} (hparent : tree.node parent = some .dir)
    (h : CanMakeDir permits tree (name :: parent)) :
    ∃ tree', makeDir permits (name :: parent) tree = .ok () tree' ∧
      ∀ x, tree'.node x = if x = name :: parent then some .dir else tree.node x := by
  rcases h with hdir | ⟨hnone, hpermits⟩
  · refine ⟨tree, by simp [makeDir, hdir], fun x => ?_⟩
    by_cases hx : x = name :: parent
    · rw [if_pos hx, hx, hdir]
    · rw [if_neg hx]
  · refine ⟨tree.put name parent .dir, by simp [makeDir, hnone, hparent, hpermits], ?_⟩
    exact FileTree.node_put hparent (by simp [hnone]) .dir

/-- A directory was made only where it could be made. -/
theorem canMakeDir_of_makeDir {name : N} {parent : List N}
    (h : makeDir permits (name :: parent) tree = .ok () tree') :
    CanMakeDir permits tree (name :: parent) := by
  simp only [makeDir] at h
  split_ifs at h with hdir hmake
  · exact Or.inl hdir
  · exact Or.inr ⟨hmake.1, hmake.2.2⟩

/-- Where every ancestor of a path can be made, they all are made and nothing else
changes. -/
theorem createDirAll_run {path : List N} (h : ∀ x, x <:+ path → CanMakeDir permits tree x) :
    ∃ tree', createDirAll permits path tree = .ok () tree' ∧
      ∀ x, tree'.node x = if x <:+ path then some .dir else tree.node x := by
  induction path with
  | nil =>
      refine ⟨tree, rfl, fun x => ?_⟩
      by_cases hx : x <:+ []
      · rw [if_pos hx, List.suffix_nil.mp hx, tree.root]
      · rw [if_neg hx]
  | cons name parent ih =>
      rcases ih fun x hx => h x (hx.trans (List.suffix_cons name parent)) with
        ⟨between, hparents, hbetween⟩
      have hsame : between.node (name :: parent) = tree.node (name :: parent) := by
        rw [hbetween, if_neg (not_cons_suffix name parent)]
      have hcan : CanMakeDir permits between (name :: parent) := by
        rw [CanMakeDir, hsame]
        exact h _ List.suffix_rfl
      rcases makeDir_run (by rw [hbetween, if_pos List.suffix_rfl]) hcan with
        ⟨tree', hmake, htree'⟩
      refine ⟨tree', bind_ok_iff.mpr ⟨(), between, hparents, hmake⟩, fun x => ?_⟩
      rw [htree', hbetween]
      simp only [List.suffix_cons_iff]
      split_ifs <;> tauto

/-- All directories were made only where every one of them could be made. -/
theorem canMakeDir_of_createDirAll {path : List N}
    (h : createDirAll permits path tree = .ok () tree') :
    ∀ x, x <:+ path → CanMakeDir permits tree x := by
  induction path generalizing tree' with
  | nil =>
      intro x hx
      rw [List.suffix_nil.mp hx]
      exact Or.inl tree.root
  | cons name parent ih =>
      rcases bind_ok_iff.mp h with ⟨_, between, hparents, hmake⟩
      have hcan := ih hparents
      rcases createDirAll_run hcan with ⟨between', hparents', hbetween⟩
      rw [hparents] at hparents'
      cases hparents'
      intro x hx
      rcases List.suffix_cons_iff.mp hx with rfl | hx
      · have hlast := canMakeDir_of_makeDir hmake
        rwa [CanMakeDir, hbetween, if_neg (not_cons_suffix name parent)] at hlast
      · exact hcan x hx

/-! ## Writing files -/

/-- A file can be written at a path, once its parents are made. -/
structure CanWrite (permits : List N → Bool) (tree : FileTree N α) (path : List N) : Prop where
  parents : ∀ x, x <:+ path.tail → CanMakeDir permits tree x
  place : tree.node path ≠ some .dir
  permitted : permits path

/-- A file that can be created has the content afterwards, and nothing else changes. -/
theorem create_run {name : N} {parent : List N} (hparent : tree.node parent = some .dir)
    (hplace : tree.node (name :: parent) ≠ some .dir) (hpermits : permits (name :: parent))
    (content : α) :
    ∃ tree', create permits content (name :: parent) tree = .ok () tree' ∧
      ∀ x, tree'.node x = if x = name :: parent then some (.file content) else tree.node x :=
  ⟨tree.put name parent (.file content), by simp [create, hparent, hplace, hpermits],
    FileTree.node_put hparent hplace _⟩

/-- A file that can be written is written, its parents are directories, and nothing
else changes. -/
theorem writeNew_run {path : List N} (h : CanWrite permits tree path) (content : α) :
    ∃ tree', writeNew permits content path tree = .ok () tree' ∧
      ∀ x, tree'.node x =
        if x = path then some (.file content)
        else if x <:+ path then some .dir
        else tree.node x := by
  cases path with
  | nil => exact absurd tree.root h.place
  | cons name parent =>
      rcases createDirAll_run h.parents with ⟨between, hparents, hbetween⟩
      rw [List.tail_cons] at hparents hbetween
      have hplace : between.node (name :: parent) ≠ some .dir := by
        rw [hbetween, if_neg (not_cons_suffix name parent)]
        exact h.place
      rcases create_run (by rw [hbetween, if_pos List.suffix_rfl]) hplace h.permitted content with
        ⟨tree', hcreate, htree'⟩
      refine ⟨tree', bind_ok_iff.mpr ⟨(), between, hparents, hcreate⟩, fun x => ?_⟩
      rw [htree', hbetween]
      simp only [List.suffix_cons_iff]
      split_ifs <;> tauto

/-- A file was written only where it could be written. -/
theorem canWrite_of_writeNew {path : List N} {content : α}
    (h : writeNew permits content path tree = .ok () tree') : CanWrite permits tree path := by
  rcases bind_ok_iff.mp h with ⟨_, between, hparents, hcreate⟩
  have hcan := canMakeDir_of_createDirAll hparents
  rcases createDirAll_run hcan with ⟨between', hparents', hbetween⟩
  rw [hparents] at hparents'
  cases hparents'
  cases path with
  | nil => nomatch hcreate
  | cons name parent =>
      simp only [create] at hcreate
      split_ifs at hcreate with hplace
      have hold := hplace.2.1
      rw [hbetween, List.tail_cons, if_neg (not_cons_suffix name parent)] at hold
      exact ⟨hcan, hold, hplace.2.2⟩

/-- Neither path is the other or an ancestor of it. -/
def Unrelated (p q : List N) : Prop :=
  ¬p <:+ q ∧ ¬q <:+ p

/-- A path that is not above another one differs from it. -/
theorem ne_of_not_suffix {N : Type*} {p q : List N} (h : ¬p <:+ q) : p ≠ q := by
  rintro rfl
  exact h List.suffix_rfl

/-- Writing a file does not get in the way of an unrelated one. -/
theorem CanWrite.of_unrelated {p q : List N} (h : CanWrite permits tree q) (hpq : Unrelated p q)
    {content : α}
    (htree' : ∀ x, tree'.node x =
      if x = p then some (.file content) else if x <:+ p then some .dir else tree.node x) :
    CanWrite permits tree' q where
  parents := by
    intro x hx
    have hxp : x ≠ p := by
      rintro rfl
      exact hpq.1 (hx.trans (List.tail_suffix q))
    rw [CanMakeDir, htree', if_neg hxp]
    by_cases hdir : x <:+ p
    · exact Or.inl (if_pos hdir)
    · rw [if_neg hdir]
      exact h.parents x hx
  place := by
    rw [htree', if_neg (ne_of_not_suffix hpq.2), if_neg hpq.2]
    exact h.place
  permitted := h.permitted

/-- Writing a list of one file is writing this file. -/
theorem writeEach_singleton (path : List N) (content : α) :
    writeEach permits [(path, content)] = writeNew permits content path :=
  bind_pure_unit

/-- Two lists of files are written one after the other. -/
theorem writeEach_append (xs ys : List (List N × α)) :
    writeEach permits (xs ++ ys) = (do
      writeEach permits xs
      writeEach permits ys) := by
  induction xs with
  | nil => rfl
  | cons write xs ih =>
      rw [List.cons_append, writeEach, writeEach, ih, bind_assoc]

/-- Files at unrelated paths can be written one after another. -/
theorem writeEach_run {writes : List (List N × α)}
    (hcan : ∀ write ∈ writes, CanWrite permits tree write.1)
    (hunrelated : writes.Pairwise fun v w => Unrelated v.1 w.1) :
    ∃ tree', writeEach permits writes tree = .ok () tree' ∧
      (∀ write ∈ writes, tree'.node write.1 = some (.file write.2)) ∧
      ∀ x, (∀ write ∈ writes, ¬x <:+ write.1) → tree'.node x = tree.node x := by
  induction writes generalizing tree with
  | nil => exact ⟨tree, rfl, by simp, fun _ _ => rfl⟩
  | cons write writes ih =>
      rcases write with ⟨path, content⟩
      rw [List.pairwise_cons] at hunrelated
      rcases writeNew_run (hcan _ List.mem_cons_self) content with ⟨between, hwrite, hbetween⟩
      have hrest : ∀ write ∈ writes, CanWrite permits between write.1 := fun write hmem =>
        (hcan write (List.mem_cons_of_mem _ hmem)).of_unrelated (hunrelated.1 write hmem) hbetween
      rcases ih hrest hunrelated.2 with ⟨tree', hwrites, hfiles, hframe⟩
      refine ⟨tree', bind_ok_iff.mpr ⟨(), between, hwrite, hwrites⟩, ?_, ?_⟩
      · rw [List.forall_mem_cons]
        refine ⟨?_, hfiles⟩
        rw [hframe path fun write hmem => (hunrelated.1 write hmem).1, hbetween, if_pos rfl]
      · intro x hx
        rw [List.forall_mem_cons] at hx
        rw [hframe x hx.2, hbetween, if_neg (ne_of_not_suffix hx.1), if_neg hx.1]

/-- A file is not an ancestor of anything. -/
theorem not_suffix_of_file {p q : List N} {content : α} (hp : tree.node p = some (.file content))
    (hq : tree.node q ≠ none) (hne : p ≠ q) : ¬p <:+ q := by
  intro hsuffix
  rw [tree.dir_of_suffix hsuffix hne hq] at hp
  simp at hp

/-- Creating a file and changing its content is creating it with the new content. -/
theorem create_bind_modifyFile (content : α) (f : α → α) (path : List N) :
    (create permits content path >>= fun _ => modifyFile f path) =
      create permits (f content) path := by
  funext tree
  cases path with
  | nil => rfl
  | cons name parent =>
      change EStateM.bind (create permits content (name :: parent))
        (fun _ => modifyFile f (name :: parent)) tree = _
      simp only [EStateM.bind, create]
      split_ifs with h
      · have hnode := FileTree.node_put h.1 h.2.1 (.file content)
        have hfile := hnode (name :: parent)
        rw [if_pos rfl] at hfile
        have hparent := hnode parent
        rw [if_neg (ne_of_not_suffix (not_cons_suffix name parent)).symm] at hparent
        simp only [modifyFile, hfile]
        congr 1
        ext x : 2
        rw [FileTree.node_put (hparent.trans h.1) (by simp [hfile]), hnode,
          FileTree.node_put h.1 h.2.1]
        split_ifs <;> rfl
      · rfl

/-- A file that has been created is there. -/
theorem node_of_create {path : List N} {content : α}
    (h : create permits content path tree = .ok () tree') :
    tree'.node path = some (.file content) := by
  cases path with
  | nil => nomatch h
  | cons name parent =>
      simp only [create] at h
      split_ifs at h with hplace
      cases h
      rw [FileTree.node_put hplace.1 hplace.2.1, if_pos rfl]

end Operations

/-! ## Footprints -/

/-- The state after an operation, whether it succeeded or not. -/
def stateAfter {ε σ β : Type} : EStateM.Result ε σ β → σ
  | .ok _ s => s
  | .error _ s => s

section Refusals

variable {N α : Type} [DecidableEq N] {permits : List N → Bool} {tree tree' : FileTree N α}

/-- A refusal to make directories names one of them. -/
theorem refused_createDirAll {path refused : List N}
    (h : createDirAll permits path tree = .error refused tree') : refused <:+ path := by
  induction path generalizing tree' with
  | nil => nomatch h
  | cons name parent ih =>
      rcases bind_error_iff.mp h with hparents | ⟨_, between, _, hmake⟩
      · exact (ih hparents).trans (List.suffix_cons name parent)
      · simp only [makeDir] at hmake
        split_ifs at hmake with hdir hplace
        cases hmake
        exact List.suffix_rfl

/-- A refusal to create a file names it. -/
theorem refused_create {path refused : List N} {content : α}
    (h : create permits content path tree = .error refused tree') : refused = path := by
  cases path with
  | nil =>
      cases h
      rfl
  | cons name parent =>
      simp only [create] at h
      split_ifs at h with hplace
      cases h
      rfl

end Refusals

/-- What becomes of one place when files are written at some paths. -/
inductive Change {N α : Type} (paths : List (List N)) (tree tree' : FileTree N α) (x : List N) :
    Prop
  | same (heq : tree'.node x = tree.node x)
  /-- A missing directory above one of the paths. -/
  | made (path : List N) (hpath : path ∈ paths) (habove : x <:+ path.tail)
      (hmissing : tree.node x = none) (hdir : tree'.node x = some .dir)
  /-- One of the paths. -/
  | written (content : α) (hpath : x ∈ paths) (hplace : tree.node x ≠ some .dir)
      (hfile : tree'.node x = some (.file content))

/-- Only the given paths have been written, and directories made above them. -/
def Footprint {N α : Type} (paths : List (List N)) (tree tree' : FileTree N α) : Prop :=
  ∀ x, Change paths tree tree' x

namespace Footprint

variable {N α : Type} {paths : List (List N)} {tree tree' tree'' : FileTree N α}

theorem refl (paths : List (List N)) (tree : FileTree N α) : Footprint paths tree tree :=
  fun _ => .same rfl

theorem trans (h : Footprint paths tree tree') (h' : Footprint paths tree' tree'') :
    Footprint paths tree tree'' := by
  intro x
  have hnext := h' x
  cases h x with
  | same heq =>
      cases hnext with
      | same heq' => exact .same (heq'.trans heq)
      | made path hpath habove hmissing hdir =>
          exact .made path hpath habove (heq ▸ hmissing) hdir
      | written content hpath hplace hfile => exact .written content hpath (heq ▸ hplace) hfile
  | made path hpath habove hmissing hdir =>
      cases hnext with
      | same heq' => exact .made path hpath habove hmissing (heq'.trans hdir)
      | made _ _ _ hmissing' => exact absurd (hdir.symm.trans hmissing') (by simp)
      | written _ _ hplace => exact absurd hdir hplace
  | written content hpath hplace hfile =>
      cases hnext with
      | same heq' => exact .written content hpath hplace (heq'.trans hfile)
      | made _ _ _ hmissing' => exact absurd (hfile.symm.trans hmissing') (by simp)
      | written content' _ _ hfile' => exact .written content' hpath hplace hfile'

theorem mono {paths' : List (List N)} (h : Footprint paths tree tree') (hpaths : paths ⊆ paths') :
    Footprint paths' tree tree' := by
  intro x
  cases h x with
  | same heq => exact .same heq
  | made path hpath habove hmissing hdir => exact .made path (hpaths hpath) habove hmissing hdir
  | written content hpath hplace hfile => exact .written content (hpaths hpath) hplace hfile

/-- A file keeps its content, unless its path is written. -/
theorem file_eq (h : Footprint paths tree tree') {x : List N} {content : α}
    (hfile : tree.node x = some (.file content)) (hx : x ∉ paths) :
    tree'.node x = some (.file content) := by
  cases h x with
  | same heq => exact heq.trans hfile
  | made _ _ _ hmissing => exact absurd (hfile.symm.trans hmissing) (by simp)
  | written _ hpath => exact absurd hpath hx

/-- A place that is not one of the paths or above one is left alone. -/
theorem node_eq (h : Footprint paths tree tree') {x : List N}
    (hx : ∀ path ∈ paths, ¬x <:+ path) : tree'.node x = tree.node x := by
  cases h x with
  | same heq => exact heq
  | made path hpath habove => exact absurd (habove.trans (List.tail_suffix path)) (hx path hpath)
  | written _ hpath => exact absurd List.suffix_rfl (hx x hpath)

end Footprint

/-- The operation writes at no other paths than these. -/
def Within {N α ε β : Type} (paths : List (List N)) (operation : EStateM ε (FileTree N α) β) :
    Prop :=
  ∀ tree, Footprint paths tree (stateAfter (operation tree))

namespace Within

variable {N α ε β γ : Type} {paths : List (List N)}

theorem pure (b : β) : Within paths (Pure.pure b : EStateM ε (FileTree N α) β) :=
  fun tree => Footprint.refl paths tree

theorem throw (e : ε) : Within paths (MonadExcept.throw e : EStateM ε (FileTree N α) β) :=
  fun tree => Footprint.refl paths tree

/-- What two operations touch one after the other, they touch together. -/
theorem bind {x : EStateM ε (FileTree N α) β} {f : β → EStateM ε (FileTree N α) γ}
    (hx : Within paths x) (hf : ∀ b, Within paths (f b)) : Within paths (x >>= f) := by
  intro tree
  have hfirst := hx tree
  change Footprint paths tree (stateAfter (EStateM.bind x f tree))
  unfold EStateM.bind
  cases hrun : x tree with
  | ok b between =>
      rw [hrun] at hfirst
      exact hfirst.trans (hf b between)
  | error e between =>
      rw [hrun] at hfirst
      exact hfirst

theorem mono {paths' : List (List N)} {x : EStateM ε (FileTree N α) β} (h : Within paths x)
    (hpaths : paths ⊆ paths') : Within paths' x :=
  fun tree => (h tree).mono hpaths

variable [DecidableEq N] {permits : List N → Bool}

/-- Putting a node that was missing, or a file where there is no directory. -/
theorem put {tree : FileTree N α} {name : N} {parent : List N} {node : Node α}
    (hparent : tree.node parent = some .dir) (hplace : tree.node (name :: parent) ≠ some .dir)
    (hchange : ∀ tree' : FileTree N α, tree'.node (name :: parent) = some node →
      Change paths tree tree' (name :: parent)) :
    Footprint paths tree (tree.put name parent node) := by
  intro x
  have hnode := FileTree.node_put hparent hplace node x
  by_cases hx : x = name :: parent
  · subst hx
    rw [if_pos rfl] at hnode
    exact hchange _ hnode
  · rw [if_neg hx] at hnode
    exact .same hnode

/-- Making a directory above one of the paths stays within the paths. -/
theorem makeDir {path : List N} (hpath : ∃ p ∈ paths, path <:+ p.tail) :
    Within paths (FileTrees.makeDir permits path : FileM N α Unit) := by
  intro tree
  cases path with
  | nil => exact Footprint.refl paths tree
  | cons name parent =>
      simp only [FileTrees.makeDir]
      split_ifs with hdir hmake
      · exact Footprint.refl paths tree
      · rcases hpath with ⟨p, hp, habove⟩
        exact put hmake.2.1 hdir fun tree' => .made p hp habove hmake.1
      · exact Footprint.refl paths tree

/-- The directories above a path. -/
theorem createDirAll {path : List N} (hpath : ∃ p ∈ paths, path <:+ p.tail) :
    Within paths (FileTrees.createDirAll permits path : FileM N α Unit) := by
  induction path with
  | nil => exact pure ()
  | cons name parent ih =>
      rcases hpath with ⟨p, hp, habove⟩
      have hparent := ih ⟨p, hp, (List.suffix_cons name parent).trans habove⟩
      exact hparent.bind fun _ => makeDir ⟨p, hp, habove⟩

/-- Creating a file at one of the paths stays within the paths. -/
theorem create {path : List N} (content : α) (hpath : path ∈ paths) :
    Within paths (FileTrees.create permits content path) := by
  cases path with
  | nil => exact throw []
  | cons name parent =>
      intro tree
      simp only [FileTrees.create]
      split_ifs with hplace
      · exact put hplace.1 hplace.2.1 fun tree' => .written content hpath hplace.2.1
      · exact Footprint.refl paths tree

/-- Changing a file at one of the paths stays within the paths. -/
theorem modifyFile {path : List N} (f : α → α) (hpath : path ∈ paths) :
    Within paths (FileTrees.modifyFile f path) := by
  cases path with
  | nil => exact pure ()
  | cons name parent =>
      intro tree
      simp only [FileTrees.modifyFile]
      split
      next content hfile =>
        have hplace : tree.node (name :: parent) ≠ some .dir := by simp [hfile]
        have hparent := tree.parent name parent (by simp [hfile])
        exact put hparent hplace fun tree' => .written (f content) hpath hplace
      next => exact Footprint.refl paths tree

end Within

end FileTrees
