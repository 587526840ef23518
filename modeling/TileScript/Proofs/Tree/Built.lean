import Mathlib.Data.List.Nodup
import TileScript.Proofs.Tree.Growth

namespace TileScript.Tree

variable {α : Type}

inductive Built : List Nat → Tree α → Prop
  | empty : Built [] empty
  | add {parents : List Nat} {tree : Tree α} (built : Built parents tree) (parent : Nat) (item : α)
      (known : parent ≤ tree.size) : Built (parents ++ [parent]) (tree.add parent item known)

def addedUnder (parents : List Nat) (parent : Nat) : List Nat :=
  ((parents.zipIdx 1).filter (fun (other, _) => other = parent)).map Prod.snd

theorem addedUnder_snoc (parents : List Nat) (last parent : Nat) :
    addedUnder (parents ++ [last]) parent =
      addedUnder parents parent ++ if last = parent then [parents.length + 1] else [] := by
  unfold addedUnder
  rw [List.zipIdx_append, List.filter_append, List.map_append]
  congr 1
  by_cases here : last = parent
  · simp [here, Nat.add_comm]
  · simp [here]

theorem children_add {tree : Tree α} {parent : Nat} {item : α} (known : parent ≤ tree.size)
    (node : Nat) :
    (tree.add parent item known).children node =
      tree.children node ++ if parent = node then [tree.size + 1] else [] := by
  rw [children_eq, children_eq]
  exact Links.hanging_push node

theorem Built.size_eq {parents : List Nat} {tree : Tree α} (built : Built parents tree) :
    tree.size = parents.length := by
  induction built with
  | empty => rfl
  | add built parent item known ih => rw [size_add, ih, List.length_append, List.length_singleton]

theorem Built.children_eq {parents : List Nat} {tree : Tree α} (built : Built parents tree)
    (node : Nat) : tree.children node = addedUnder parents node := by
  induction built with
  | empty =>
    rw [Tree.children_eq]
    rfl
  | add built parent item known ih => rw [children_add, addedUnder_snoc, ih, built.size_eq]

structure Family (tree : Tree α) (node : Nat) : Prop where
  parent : ∀ child, tree.parent? child = some node ↔ child ∈ tree.children node
  first : tree.firstChild? node = (tree.children node).head?
  last : tree.lastChild? node = (tree.children node).getLast?
  next : ∀ index child, (tree.children node)[index]? = some child →
    tree.nextSibling? child = (tree.children node)[index + 1]?
  position : ∀ index child, (tree.children node)[index]? = some child →
    tree.childIndex? child = some index

theorem nextSibling?_of_siblingsFrom {tree : Tree α} {start : Option Nat} {index child : Nat}
    (found : (tree.siblingsFrom start)[index]? = some child) :
    tree.nextSibling? child = (tree.siblingsFrom start)[index + 1]? := by
  induction index generalizing start with
  | zero =>
    cases start with
    | none => simp [siblingsFrom] at found
    | some node =>
      rw [siblingsFrom_some] at found ⊢
      cases found
      rw [List.getElem?_cons_succ, nextSibling?_eq_head?, List.head?_eq_getElem?]
  | succ index ih =>
    cases start with
    | none => simp [siblingsFrom] at found
    | some node =>
      rw [siblingsFrom_some, List.getElem?_cons_succ] at found ⊢
      exact ih found

theorem nodup_children (tree : Tree α) (node : Nat) : (tree.children node).Nodup := by
  rw [children_eq_filter]
  exact List.Nodup.filter _ List.nodup_range'

theorem family (tree : Tree α) (node : Nat) : tree.Family node where
  parent := fun child => mem_children.symm
  first := tree.firstChild?_eq_head? node
  last := tree.lastChild?_eq_getLast? node
  next := fun index child found => nextSibling?_of_siblingsFrom found
  position := fun index child found => by
    have hangs := mem_children.mp (List.mem_of_getElem? found)
    obtain ⟨inside, here⟩ := List.getElem?_eq_some_iff.mp found
    rw [childIndex?, hangs]
    refine List.idxOf?_eq_some_iff.mpr ⟨inside, here, fun other before same => ?_⟩
    have one : other = index :=
      (tree.nodup_children node).getElem_inj_iff.mp (same.trans here.symm)
    omega

end TileScript.Tree
