import TileScript.Tree.Links

namespace TileScript

/-- An ordered tree of items. Node 0 is the root; every other node is numbered in the order of
insertion. Slot `i` describes node `i + 1`, entry `i` of the links node `i`. -/
structure Tree (α : Type) where
  slots : Array (Slot α)
  links : Array Links
  linked : Linked slots links

namespace Tree

open Links

variable {α : Type}

def empty : Tree α := ⟨#[], #[{}], Linked.empty⟩

instance : Inhabited (Tree α) := ⟨empty⟩

def size (tree : Tree α) : Nat := tree.slots.size

def item? (tree : Tree α) (node : Nat) : Option α :=
  match node with
  | 0 => none
  | index + 1 => tree.slots[index]?.map (·.item)

def parent? (tree : Tree α) (node : Nat) : Option Nat :=
  match node with
  | 0 => none
  | index + 1 => tree.slots[index]?.map (·.parent)

def add (tree : Tree α) (parent : Nat) (item : α) (known : parent ≤ tree.size) : Tree α where
  slots := tree.slots.push ⟨parent, item⟩
  links := hang tree.links parent
  linked := tree.linked.hang known

def firstChild? (tree : Tree α) (node : Nat) : Option Nat :=
  tree.links[node]?.bind (·.first)

def lastChild? (tree : Tree α) (node : Nat) : Option Nat :=
  tree.links[node]?.bind (·.last)

def nextSibling? (tree : Tree α) (node : Nat) : Option Nat :=
  tree.links[node]?.bind (·.next)

def hasChildren (tree : Tree α) (node : Nat) : Bool :=
  (tree.firstChild? node).isSome

def isEmpty (tree : Tree α) : Bool :=
  !tree.hasChildren 0

theorem parent?_lt {tree : Tree α} {node parent : Nat} (hangs : tree.parent? node = some parent) :
    parent < node :=
  parentAt_lt tree.linked.parent_le hangs

theorem le_size_of_parent? {tree : Tree α} {node parent : Nat}
    (hangs : tree.parent? node = some parent) : node ≤ tree.size :=
  le_size_of_parentAt hangs

theorem firstChild?_eq (tree : Tree α) (node : Nat) :
    tree.firstChild? node = (hanging tree.slots node).head? := by
  rw [firstChild?, tree.linked.bind_links rfl]
  rfl

theorem lastChild?_eq (tree : Tree α) (node : Nat) :
    tree.lastChild? node = (hanging tree.slots node).getLast? := by
  rw [lastChild?, tree.linked.bind_links rfl]
  rfl

theorem nextSibling?_eq (tree : Tree α) (node : Nat) :
    tree.nextSibling? node = (hangingAfter tree.slots node).head? := by
  rw [nextSibling?, tree.linked.bind_links rfl]
  rfl

theorem parentAt_slots (tree : Tree α) : parentAt tree.slots = tree.parent? := by
  funext node
  cases node <;> rfl

theorem firstChild?_eq_find? (tree : Tree α) (node : Nat) :
    tree.firstChild? node =
      (List.range' 1 tree.size).find? (fun child => tree.parent? child == some node) := by
  rw [firstChild?_eq, hanging, List.head?_filter, parentAt_slots, size]

theorem nextSibling?_eq_find? (tree : Tree α) (node : Nat) :
    tree.nextSibling? node =
      (List.range' (node + 1) (tree.size - node)).find?
        (fun other => tree.parent? other == tree.parent? node) := by
  rw [nextSibling?_eq, hangingAfter, List.head?_filter, parentAt_slots, size]

theorem parent?_firstChild? {tree : Tree α} {node child : Nat}
    (first : tree.firstChild? node = some child) : tree.parent? child = some node := by
  rw [firstChild?_eq] at first
  exact mem_hanging.mp (List.mem_of_head? first)

theorem mem_hangingAfter_of_nextSibling? {tree : Tree α} {node sibling : Nat}
    (next : tree.nextSibling? node = some sibling) : sibling ∈ hangingAfter tree.slots node := by
  rw [nextSibling?_eq] at next
  exact List.mem_of_head? next

theorem parent?_nextSibling? {tree : Tree α} {node sibling : Nat}
    (next : tree.nextSibling? node = some sibling) :
    tree.parent? sibling = tree.parent? node :=
  (mem_hangingAfter.mp (mem_hangingAfter_of_nextSibling? next)).2.2

theorem lt_nextSibling? {tree : Tree α} {node sibling : Nat}
    (next : tree.nextSibling? node = some sibling) : node < sibling :=
  (mem_hangingAfter.mp (mem_hangingAfter_of_nextSibling? next)).1

theorem nextSibling?_le_size {tree : Tree α} {node sibling : Nat}
    (next : tree.nextSibling? node = some sibling) : sibling ≤ tree.size :=
  (mem_hangingAfter.mp (mem_hangingAfter_of_nextSibling? next)).2.1

@[semireducible] -- so that the children in a tree written out can be computed
def siblingsFrom (tree : Tree α) (start : Option Nat) : List Nat :=
  match start with
  | none => []
  | some node => node :: tree.siblingsFrom (tree.nextSibling? node)
termination_by start.elim 0 (fun node => tree.size - node + 1)
decreasing_by
  cases next : tree.nextSibling? node with
  | none => simp
  | some sibling =>
    have later := lt_nextSibling? next
    have known := nextSibling?_le_size next
    simp only [Option.elim_some]
    omega

def children (tree : Tree α) (node : Nat) : List Nat :=
  tree.siblingsFrom (tree.firstChild? node)

def laterSiblings (tree : Tree α) (node : Nat) : List Nat :=
  tree.siblingsFrom (tree.nextSibling? node)

theorem siblingsFrom_some (tree : Tree α) (node : Nat) :
    tree.siblingsFrom (some node) = node :: tree.laterSiblings node := by
  rw [siblingsFrom, laterSiblings]

theorem laterSiblings_eq (tree : Tree α) (node : Nat) :
    tree.laterSiblings node = hangingAfter tree.slots node := by
  generalize left : tree.size - node = bound
  induction bound using Nat.strongRecOn generalizing node with
  | ind bound ih =>
    rw [laterSiblings]
    cases next : tree.nextSibling? node with
    | none =>
      rw [nextSibling?_eq, List.head?_eq_none_iff] at next
      rw [siblingsFrom, next]
    | some sibling =>
      have later := lt_nextSibling? next
      have known := nextSibling?_le_size next
      rw [siblingsFrom_some, ih (tree.size - sibling) (by omega) sibling rfl]
      rw [nextSibling?_eq] at next
      exact (hangingAfter_of_head? next).symm

theorem children_eq (tree : Tree α) (node : Nat) :
    tree.children node = hanging tree.slots node := by
  rw [children]
  cases first : tree.firstChild? node with
  | none =>
    rw [firstChild?_eq, List.head?_eq_none_iff] at first
    rw [siblingsFrom, first]
  | some child =>
    rw [siblingsFrom_some, laterSiblings_eq]
    rw [firstChild?_eq] at first
    exact (hanging_of_head? first).symm

def ancestors (tree : Tree α) (node : Nat) : List Nat :=
  match _hangs : tree.parent? node with
  | none => []
  | some parent => if parent = 0 then [] else parent :: tree.ancestors parent
termination_by node
decreasing_by exact parent?_lt _hangs

def childIndex? (tree : Tree α) (node : Nat) : Option Nat :=
  match tree.parent? node with
  | none => none
  | some parent => (tree.children parent).idxOf? node

def next? (tree : Tree α) (node : Nat) : Option Nat :=
  match tree.nextSibling? node with
  | some sibling => some sibling
  | none =>
    match tree.parent? node with
    | none => none
    | some parent => if parent = 0 then none else some parent

theorem children_eq_filter (tree : Tree α) (node : Nat) :
    tree.children node =
      (List.range' 1 tree.size).filter (fun child => tree.parent? child == some node) := by
  rw [children_eq, hanging, parentAt_slots, size]

theorem mem_children {tree : Tree α} {node child : Nat} :
    child ∈ tree.children node ↔ tree.parent? child = some node := by
  rw [children_eq]
  exact mem_hanging

theorem firstChild?_eq_head? (tree : Tree α) (node : Nat) :
    tree.firstChild? node = (tree.children node).head? := by
  rw [children_eq, firstChild?_eq]

theorem lastChild?_eq_getLast? (tree : Tree α) (node : Nat) :
    tree.lastChild? node = (tree.children node).getLast? := by
  rw [children_eq, lastChild?_eq]

theorem nextSibling?_eq_head? (tree : Tree α) (node : Nat) :
    tree.nextSibling? node = (tree.laterSiblings node).head? := by
  rw [laterSiblings_eq, nextSibling?_eq]

theorem children_of_firstChild? {tree : Tree α} {node child : Nat}
    (first : tree.firstChild? node = some child) :
    tree.children node = child :: tree.laterSiblings child := by
  rw [children, first, siblingsFrom_some]

theorem laterSiblings_of_nextSibling? {tree : Tree α} {node sibling : Nat}
    (next : tree.nextSibling? node = some sibling) :
    tree.laterSiblings node = sibling :: tree.laterSiblings sibling := by
  rw [laterSiblings, next, siblingsFrom_some]

theorem laterSiblings_of_nextSibling?_none {tree : Tree α} {node : Nat}
    (last : tree.nextSibling? node = none) : tree.laterSiblings node = [] := by
  rw [laterSiblings, last, siblingsFrom]

end Tree

end TileScript
