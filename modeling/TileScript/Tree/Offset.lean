import TileScript.Tree.Basic

namespace TileScript.Tree

variable {α : Type}

/-- The steps from entering a node to just past its subtree: one for a leaf, otherwise one to
descend, those of the children, and one to leave. -/
def skipOffset (tree : Tree α) (node : Nat) : Nat :=
  if tree.hasChildren node then
    2 + (tree.children node).attach.foldr (fun child steps => tree.skipOffset child.1 + steps) 0
  else 1
termination_by tree.size - node
decreasing_by
  have hangs := mem_children.mp child.2
  have below := parent?_lt hangs
  have known := le_size_of_parent? hangs
  omega

def widthOf (tree : Tree α) (nodes : List Nat) : Nat :=
  nodes.foldr (fun node steps => tree.skipOffset node + steps) 0

theorem skipOffset_eq (tree : Tree α) (node : Nat) :
    tree.skipOffset node =
      if tree.hasChildren node then 2 + tree.widthOf (tree.children node) else 1 := by
  rw [skipOffset]
  rw [widthOf, ← @List.foldr_attach _ _ (tree.children node)]

def offsetToChild? (tree : Tree α) (node index : Nat) : Option Nat :=
  if index < (tree.children node).length then
    some (1 + tree.widthOf ((tree.children node).take index))
  else none

def offsetToParentReturn (tree : Tree α) (node : Nat) : Nat :=
  1 + tree.widthOf (tree.laterSiblings node)

def climbTo? (tree : Tree α) (node ancestor : Nat) : Option Nat :=
  if node = ancestor then some 0
  else
    match _hangs : tree.parent? node with
    | none => none
    | some parent => (tree.climbTo? parent ancestor).map (· + tree.offsetToParentReturn node)
termination_by node
decreasing_by exact parent?_lt _hangs

def offsetToExit? (tree : Tree α) (node ancestor : Nat) : Option Nat :=
  match tree.parent? node with
  | none => none
  | some parent =>
    (tree.climbTo? parent ancestor).map
      (· + (tree.skipOffset node + tree.widthOf (tree.laterSiblings node) + 1))

def stepsAfter (tree : Tree α) (node : Nat) : Nat :=
  tree.widthOf (tree.laterSiblings node) +
    match _hangs : tree.parent? node with
    | none => 0
    | some parent => if parent = 0 then 0 else 1 + tree.stepsAfter parent
termination_by node
decreasing_by exact parent?_lt _hangs

end TileScript.Tree
