import Mathlib.Data.Fintype.Card
import Mathlib.Data.Set.Finite.Basic
import Mathlib.Logic.Relation

/-!
# Worklist walks without a visited set

A walk pops an element, records its children and schedules them, until nothing
is scheduled.  It keeps no record of what it has seen, so whether it ends
depends on the child relation alone.

Main results:

- Theorem {lit}`Walk.ends_iff`: a walk ends exactly when every scheduled element
  is accessible under the child relation.
- Theorem {lit}`acc_iff_not_transGen`: where every element has at most one
  parent and finitely many elements have one, an element is accessible exactly
  when it is not its own descendant.
- Theorem {lit}`treeOrder_of_run`: where parents are unique and the root is not
  its own descendant, a walk that ends has recorded every descendant of the root
  once, and after its parent.
-/

namespace Worklist

open Relation

variable {α : Type*}

/-! ## The walk -/

/-- What has been recorded so far and what is scheduled, the top of the stack
first. -/
structure Walk (α : Type*) where
  out : List α
  stack : List α

namespace Walk

/-- A walk that has recorded and scheduled its root. -/
def start (root : α) : Walk α where
  out := [root]
  stack := [root]

/-- Record an element and schedule it. -/
def push (walk : Walk α) (x : α) : Walk α where
  out := walk.out ++ [x]
  stack := x :: walk.stack

/-- Pop an element and push its children, if anything is scheduled. -/
def turn (children : α → List α) (walk : Walk α) : Option (Walk α) :=
  match walk.stack with
  | [] => none
  | x :: rest => some ((children x).foldl push { walk with stack := rest })

/-- Turn until nothing is scheduled, for a bounded number of turns. -/
def run (children : α → List α) : ℕ → Walk α → Option (List α)
  | 0, _ => none
  | fuel + 1, walk =>
      match walk.turn children with
      | none => some walk.out
      | some walk => run children fuel walk

/-- The loop ends. -/
def Ends (children : α → List α) (walk : Walk α) : Prop :=
  ∃ fuel, (run children fuel walk).isSome

variable {children : α → List α}

/-- Pushing all children puts them on the output in order and on the stack in reverse. -/
theorem foldl_push (xs : List α) (walk : Walk α) :
    xs.foldl push walk =
      { out := walk.out ++ xs, stack := xs.reverse ++ walk.stack } := by
  induction xs generalizing walk with
  | nil => simp
  | cons x xs ih =>
      rw [List.foldl_cons, ih]
      simp [push]

/-- A turn takes the node on top of the stack and pushes its children. -/
theorem turn_cons (out : List α) (x : α) (rest : List α) :
    turn children { out := out, stack := x :: rest } =
      some { out := out ++ children x, stack := (children x).reverse ++ rest } := by
  simp only [turn, foldl_push]

/-! ## When the walk ends -/

theorem ends_nil (out : List α) : Ends children { out := out, stack := [] } :=
  ⟨1, rfl⟩

/-- A walk ends if it ends after one more turn. -/
theorem ends_cons {out : List α} {x : α} {rest : List α}
    (h : Ends children
      { out := out ++ children x, stack := (children x).reverse ++ rest }) :
    Ends children { out := out, stack := x :: rest } := by
  rcases h with ⟨fuel, hfuel⟩
  refine ⟨fuel + 1, ?_⟩
  rw [run, turn_cons]
  exact hfuel

/-- An accessible element on top of a walk that ends makes no difference. -/
theorem ends_of_acc {x : α} (hacc : Acc (fun c p => c ∈ children p) x) {rest : List α}
    (hrest : ∀ out, Ends children { out := out, stack := rest }) (out : List α) :
    Ends children { out := out, stack := x :: rest } := by
  induction hacc generalizing rest out with
  | intro x _ ih =>
      -- The children come off the stack one by one, each with all it schedules.
      have hchildren : ∀ xs : List α, (∀ c ∈ xs, c ∈ children x) →
          ∀ out, Ends children { out := out, stack := xs ++ rest } := by
        intro xs
        induction xs with
        | nil => exact fun _ => hrest
        | cons c xs ihxs =>
            intro hmem
            exact ih c (hmem c (by simp)) (ihxs fun d hd => hmem d (List.mem_cons_of_mem c hd))
      exact ends_cons (hchildren _ (fun c hc => List.mem_reverse.mp hc) _)

/-- A walk ends when every node on its stack has only finite chains below it. -/
theorem ends_of_forall_acc {stack : List α}
    (hacc : ∀ x ∈ stack, Acc (fun c p => c ∈ children p) x) (out : List α) :
    Ends children { out := out, stack := stack } := by
  induction stack generalizing out with
  | nil => exact ends_nil out
  | cons x rest ih =>
      have hrest := ih fun y hy => hacc y (List.mem_cons_of_mem x hy)
      exact ends_of_acc (hacc x (by simp)) hrest out

/-- A walk that ends only ever schedules accessible elements. -/
theorem acc_of_run {fuel : ℕ} {walk : Walk α} (h : (run children fuel walk).isSome) :
    ∀ x ∈ walk.stack, Acc (fun c p => c ∈ children p) x := by
  induction fuel generalizing walk with
  | zero => simp [run] at h
  | succ fuel ih =>
      rcases walk with ⟨out, stack⟩
      cases stack with
      | nil => simp
      | cons x rest =>
          rw [run, turn_cons] at h
          have hnext := ih h
          have hx : Acc (fun c p => c ∈ children p) x :=
            Acc.intro x fun c hc => hnext c (by simp [hc])
          intro y hy
          rcases List.mem_cons.mp hy with rfl | hy
          · exact hx
          · exact hnext y (List.mem_append_right _ hy)

/-- A walk ends exactly when everything it has scheduled is accessible. -/
theorem ends_iff (children : α → List α) (walk : Walk α) :
    walk.Ends children ↔ ∀ x ∈ walk.stack, Acc (fun c p => c ∈ children p) x := by
  constructor
  · rintro ⟨fuel, hfuel⟩
    exact acc_of_run hfuel
  · intro hacc
    exact ends_of_forall_acc hacc walk.out

end Walk

/-! ## Accessibility where parents are unique -/

/-- A node with only finite chains below it lies on no cycle. -/
theorem not_transGen_self_of_acc {r : α → α → Prop} {x : α} (h : Acc r x) :
    ¬TransGen r x x := by
  have htrans := h.transGen
  induction htrans with
  | intro x _ ih =>
      intro hx
      exact ih x hx (h.inv_of_transGen hx) hx

section UniqueParents

variable {edge : α → α → Prop} {root : α}

/-- If the root is not its own descendant, no descendant of it is. -/
theorem not_transGen_self_of_reflTransGen
    (hunique : ∀ p p' c, edge p c → edge p' c → p = p') (hroot : ¬TransGen edge root root)
    {x : α} (hx : ReflTransGen edge root x) : ¬TransGen edge x x := by
  induction hx with
  | refl => exact hroot
  | @tail y z _ hyz ih =>
      intro hz
      -- The last step of the chain back to `z` comes from its only parent, `y`.
      rcases TransGen.tail'_iff.mp hz with ⟨w, hzw, hwz⟩
      have hwy : w = y := hunique w y z hwz hyz
      subst hwy
      exact ih (TransGen.head' hyz hzw)

/-- Only finitely many elements can be reached. -/
theorem finite_descendants (hfinite : {c | ∃ p, edge p c}.Finite) :
    {x | ReflTransGen edge root x}.Finite := by
  apply (hfinite.insert root).subset
  intro x hx
  rcases hx.cases_tail with rfl | ⟨p, _, hpx⟩
  · exact Set.mem_insert _ _
  · exact Set.mem_insert_of_mem _ ⟨p, hpx⟩

/-- With unique parents and finitely many children overall, an element is
accessible exactly when it is not its own descendant. -/
theorem acc_iff_not_transGen (hunique : ∀ p p' c, edge p c → edge p' c → p = p')
    (hfinite : {c | ∃ p, edge p c}.Finite) :
    Acc (fun c p => edge p c) root ↔ ¬TransGen edge root root := by
  constructor
  · intro hacc hcycle
    exact not_transGen_self_of_acc hacc (transGen_swap.mpr hcycle)
  · intro hroot
    -- On the descendants of the root, being a proper descendant is well-founded.
    let Descendant := {x // ReflTransGen edge root x}
    let below : Descendant → Descendant → Prop := fun c p => TransGen edge p.1 c.1
    have : Finite Descendant := (finite_descendants hfinite).to_subtype
    have : IsTrans Descendant below := ⟨fun _ _ _ hab hbc => hbc.trans hab⟩
    have : Std.Irrefl below :=
      ⟨fun x => not_transGen_self_of_reflTransGen hunique hroot x.2⟩
    have hwf : WellFounded below := Finite.wellFounded_of_trans_of_irrefl below
    have hall : ∀ x : Descendant, Acc (fun c p => edge p c) x.1 := by
      intro x
      induction x using hwf.induction with
      | _ x ih =>
          refine Acc.intro x.1 fun c hc => ?_
          exact ih ⟨c, x.2.tail hc⟩ (TransGen.single hc)
    exact hall ⟨root, ReflTransGen.refl⟩

end UniqueParents

/-! ## What a walk records -/

/-- A list of the descendants of a root: the root first, each of them once, and
every other one after its parent. -/
structure TreeOrder (edge : α → α → Prop) (root : α) (out : List α) : Prop where
  head : out.head? = some root
  mem_iff : ∀ x, x ∈ out ↔ ReflTransGen edge root x
  nodup : out.Nodup
  parent_first : ∀ before x after, out = before ++ x :: after → x ≠ root →
    ∃ p ∈ before, edge p x

/-- Children behind a list that holds their parent come after their parent. -/
theorem parent_first_append {edge : α → α → Prop} {root p : α} {xs ys : List α}
    (hxs : ∀ before x after, xs = before ++ x :: after → x ≠ root → ∃ q ∈ before, edge q x)
    (hp : p ∈ xs) (hys : ∀ y ∈ ys, edge p y) :
    ∀ before x after, xs ++ ys = before ++ x :: after → x ≠ root →
      ∃ q ∈ before, edge q x := by
  intro before x after hsplit hx
  rcases List.append_eq_append_iff.mp hsplit with ⟨pushed, hbefore, hpushed⟩ | ⟨old, hout, hold⟩
  · refine ⟨p, hbefore ▸ List.mem_append_left _ hp, hys x ?_⟩
    rw [hpushed]
    simp
  · cases old with
    | nil =>
        rw [List.nil_append] at hold
        rw [List.append_nil] at hout
        exact ⟨p, hout ▸ hp, hys x (hold ▸ List.mem_cons_self)⟩
    | cons y old =>
        rw [List.cons_append, List.cons.injEq] at hold
        rw [← hold.1] at hout
        exact hxs before x old hout hx

namespace Walk

variable {children : α → List α} {root : α}

/-- What one turn preserves holds of the walk that ends. -/
theorem run_induction {P : Walk α → Prop}
    (hturn : ∀ out x rest, P { out := out, stack := x :: rest } →
      P { out := out ++ children x, stack := (children x).reverse ++ rest })
    {fuel : ℕ} {walk : Walk α} {out : List α} (h : P walk)
    (hrun : run children fuel walk = some out) : P { out := out, stack := [] } := by
  induction fuel generalizing walk with
  | zero => exact absurd hrun (by simp [run])
  | succ fuel ih =>
      rcases walk with ⟨recorded, stack⟩
      cases stack with
      | nil =>
          rw [run] at hrun
          cases hrun
          exact h
      | cons x rest =>
          rw [run, turn_cons] at hrun
          exact ih (hturn recorded x rest h) hrun

/-- The invariant of the walk.  The recorded elements whose children are not
recorded yet are exactly the scheduled ones. -/
structure Explored (children : α → List α) (root : α) (walk : Walk α) : Prop where
  head : walk.out.head? = some root
  nodup_out : walk.out.Nodup
  nodup_stack : walk.stack.Nodup
  recorded : ∀ x ∈ walk.stack, x ∈ walk.out
  reachable : ∀ x ∈ walk.out, ReflTransGen (fun p c => c ∈ children p) root x
  closed : ∀ x ∈ walk.out, x ∉ walk.stack → ∀ c ∈ children x, c ∈ walk.out
  fresh : ∀ x ∈ walk.stack, ∀ c ∈ children x, c ∉ walk.out
  parent_first : ∀ before x after, walk.out = before ++ x :: after → x ≠ root →
    ∃ p ∈ before, x ∈ children p

/-- At the start only the root has been seen, and it is on the stack. -/
theorem explored_start (hroot : ¬TransGen (fun p c => c ∈ children p) root root) :
    (start root).Explored children root where
  head := rfl
  nodup_out := List.nodup_singleton root
  nodup_stack := List.nodup_singleton root
  recorded := fun _ hx => hx
  reachable := by
    intro x hx
    rw [List.mem_singleton.mp hx]
  closed := fun _ hx hstack => absurd hx hstack
  fresh := by
    intro x hx c hc hout
    rw [List.mem_singleton.mp hx, List.mem_singleton.mp hout] at hc
    exact hroot (TransGen.single hc)
  parent_first := by
    intro before x after hout hx
    rcases List.singleton_eq_append_iff.mp hout with ⟨_, hcons⟩ | ⟨_, hcons⟩
    · exact absurd (List.cons.inj hcons).1 hx
    · exact absurd hcons (by simp)

/-- The children of an element that has not been recorded are not recorded
either: the parent of a recorded element comes before it. -/
theorem Explored.not_mem_of_parent
    (hunique : ∀ p p' c, c ∈ children p → c ∈ children p' → p = p')
    (hroot : ¬TransGen (fun p c => c ∈ children p) root root) {walk : Walk α}
    (h : walk.Explored children root) {p c : α}
    (hp : ReflTransGen (fun p c => c ∈ children p) root p) (hout : p ∉ walk.out)
    (hc : c ∈ children p) : c ∉ walk.out := by
  intro hmem
  by_cases hcroot : c = root
  · subst hcroot
    exact hroot (TransGen.tail' hp hc)
  · rcases List.append_of_mem hmem with ⟨before, after, hsplit⟩
    rcases h.parent_first before c after hsplit hcroot with ⟨p', hp', hc'⟩
    rw [hunique p p' c hc hc'] at hout
    exact hout (hsplit ▸ List.mem_append_left _ hp')

/-- One turn preserves the invariant. -/
theorem Explored.turn (hunique : ∀ p p' c, c ∈ children p → c ∈ children p' → p = p')
    (hroot : ¬TransGen (fun p c => c ∈ children p) root root)
    (hnodup : ∀ p, (children p).Nodup) {out : List α} {x : α} {rest : List α}
    (h : Explored children root { out := out, stack := x :: rest }) :
    Explored children root
      { out := out ++ children x, stack := (children x).reverse ++ rest } := by
  have hx : x ∈ out := h.recorded x (by simp)
  have hfresh : ∀ c ∈ children x, c ∉ out := h.fresh x (by simp)
  have hrest : ∀ y ∈ rest, y ∈ out := fun y hy => h.recorded y (List.mem_cons_of_mem x hy)
  have hxrest : x ∉ rest := (List.nodup_cons.mp h.nodup_stack).1
  have hreach : ∀ c ∈ children x, ReflTransGen (fun p c => c ∈ children p) root c :=
    fun c hc => (h.reachable x hx).tail hc
  constructor
  case head => rw [List.head?_append, h.head, Option.some_or]
  case nodup_out =>
    exact h.nodup_out.append (hnodup x) fun c hout hc => hfresh c hc hout
  case nodup_stack =>
    refine (List.nodup_reverse.mpr (hnodup x)).append (List.nodup_cons.mp h.nodup_stack).2 ?_
    exact fun c hc hc' => hfresh c (List.mem_reverse.mp hc) (hrest c hc')
  case recorded =>
    intro y hy
    rcases List.mem_append.mp hy with hy | hy
    · exact List.mem_append_right _ (List.mem_reverse.mp hy)
    · exact List.mem_append_left _ (hrest y hy)
  case reachable =>
    intro y hy
    rcases List.mem_append.mp hy with hy | hy
    · exact h.reachable y hy
    · exact hreach y hy
  case closed =>
    intro y hy hstack c hc
    rw [List.mem_append, List.mem_reverse, not_or] at hstack
    have hyout : y ∈ out := (List.mem_append.mp hy).resolve_right hstack.1
    by_cases hyx : y = x
    · exact List.mem_append_right _ (hyx ▸ hc)
    · exact List.mem_append_left _
        (h.closed y hyout (by simp [hyx, hstack.2]) c hc)
  case fresh =>
    intro y hy c hc hmem
    -- A child of `x` has no other parent, and `x` is no longer scheduled.
    have hyx : y = x → y ∈ children x := by
      intro hyx
      rcases List.mem_append.mp hy with hy | hy
      · exact List.mem_reverse.mp hy
      · exact absurd (hyx ▸ hy) hxrest
    have hcx : c ∉ children x := by
      intro hcx
      have hy := hunique y x c hc hcx
      exact hfresh y (hyx hy) (hy ▸ hx)
    have hcout : c ∈ out := (List.mem_append.mp hmem).resolve_right hcx
    rcases List.mem_append.mp hy with hy | hy
    · have hychild := List.mem_reverse.mp hy
      exact h.not_mem_of_parent hunique hroot (hreach y hychild) (hfresh y hychild) hc hcout
    · exact h.fresh y (List.mem_cons_of_mem x hy) c hc hcout
  case parent_first => exact parent_first_append h.parent_first hx fun _ hc => hc

/-- A walk that ends has recorded the descendants of its root in tree order. -/
theorem treeOrder_of_run (children : α → List α)
    (hunique : ∀ p p' c, c ∈ children p → c ∈ children p' → p = p')
    (hroot : ¬TransGen (fun p c => c ∈ children p) root root)
    (hnodup : ∀ p, (children p).Nodup) {fuel : ℕ} {out : List α}
    (hrun : run children fuel (start root) = some out) :
    TreeOrder (fun p c => c ∈ children p) root out := by
  have hend := run_induction (fun _ _ _ h => h.turn hunique hroot hnodup)
    (explored_start hroot) hrun
  refine ⟨hend.head, fun x => ⟨hend.reachable x, ?_⟩, hend.nodup_out, hend.parent_first⟩
  intro hx
  induction hx with
  | refl => exact List.mem_of_mem_head? hend.head
  | @tail p c _ hc ih => exact hend.closed p ih List.not_mem_nil c hc

end Walk

end Worklist
