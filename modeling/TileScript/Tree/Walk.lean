import TileScript.Tree.Offset

namespace TileScript

/-- The side of a node a cursor is on: before its children, or back after the last of them. -/
inductive Phase where
  | enter
  | back
  deriving DecidableEq

structure Cursor where
  node : Nat
  phase : Phase
  deriving DecidableEq

def Cursor.enter (node : Nat) : Cursor := ⟨node, .enter⟩

def Cursor.back (node : Nat) : Cursor := ⟨node, .back⟩

namespace Tree

variable {α : Type}

def start? (tree : Tree α) : Option Cursor :=
  (tree.firstChild? 0).map Cursor.enter

/-- Onward from a node whose children are done: the next sibling is entered, and after the last one
the walk comes back to the parent, unless that is the root. -/
def leave? (tree : Tree α) (node : Nat) : Option Cursor :=
  match tree.nextSibling? node with
  | some sibling => some (.enter sibling)
  | none =>
    match tree.parent? node with
    | none => none
    | some parent => if parent = 0 then none else some (.back parent)

def step? (tree : Tree α) (cursor : Cursor) : Option Cursor :=
  match cursor.phase, tree.firstChild? cursor.node with
  | .enter, some child => some (.enter child)
  | _, _ => tree.leave? cursor.node

def advance? (tree : Tree α) (cursor : Cursor) : Nat → Option Cursor
  | 0 => some cursor
  | count + 1 =>
    match tree.step? cursor with
    | none => none
    | some next => tree.advance? next count

def remaining (tree : Tree α) (cursor : Cursor) : Nat :=
  match cursor.phase with
  | .enter => tree.skipOffset cursor.node + tree.stepsAfter cursor.node
  | .back => 1 + tree.stepsAfter cursor.node

theorem widthOf_cons (tree : Tree α) (node : Nat) (nodes : List Nat) :
    tree.widthOf (node :: nodes) = tree.skipOffset node + tree.widthOf nodes := by
  simp [widthOf]

theorem stepsAfter_eq (tree : Tree α) (node : Nat) :
    tree.stepsAfter node = tree.widthOf (tree.laterSiblings node) +
      match tree.parent? node with
      | none => 0
      | some parent => if parent = 0 then 0 else 1 + tree.stepsAfter parent := by
  rw [stepsAfter]
  split <;> simp [*]

theorem stepsAfter_of_parent? {tree : Tree α} {node parent : Nat}
    (hangs : tree.parent? node = some parent) (inner : parent ≠ 0) :
    tree.stepsAfter node =
      tree.widthOf (tree.laterSiblings node) + (1 + tree.stepsAfter parent) := by
  rw [stepsAfter_eq, hangs]
  simp [inner]

theorem stepsAfter_of_top {tree : Tree α} {node : Nat} (hangs : tree.parent? node = some 0) :
    tree.stepsAfter node = tree.widthOf (tree.laterSiblings node) := by
  rw [stepsAfter_eq, hangs]
  simp

theorem skipOffset_of_firstChild? {tree : Tree α} {node child : Nat}
    (first : tree.firstChild? node = some child) :
    tree.skipOffset node =
      2 + (tree.skipOffset child + tree.widthOf (tree.laterSiblings child)) := by
  rw [skipOffset_eq, children_of_firstChild? first, widthOf_cons]
  simp [hasChildren, first]

theorem skipOffset_pos (tree : Tree α) (node : Nat) : 0 < tree.skipOffset node := by
  rw [skipOffset_eq]
  split <;> omega

theorem stepsAfter_of_nextSibling? {tree : Tree α} {node sibling : Nat}
    (next : tree.nextSibling? node = some sibling) :
    tree.stepsAfter node = tree.skipOffset sibling + tree.stepsAfter sibling := by
  rw [stepsAfter_eq tree node, stepsAfter_eq tree sibling, laterSiblings_of_nextSibling? next,
    widthOf_cons, parent?_nextSibling? next]
  omega

theorem remaining_leave? {tree : Tree α} {node : Nat} {cursor : Cursor}
    (left : tree.leave? node = some cursor) : tree.stepsAfter node = tree.remaining cursor := by
  unfold leave? at left
  split at left
  · rename_i sibling next
    cases left
    simpa [remaining, Cursor.enter] using stepsAfter_of_nextSibling? next
  · rename_i last
    split at left
    · cases left
    · rename_i parent hangs
      split at left
      · cases left
      · rename_i inner
        cases left
        rw [stepsAfter_of_parent? hangs inner, laterSiblings_of_nextSibling?_none last]
        simp [remaining, Cursor.back, widthOf]

theorem remaining_step?_lt {tree : Tree α} {cursor next : Cursor}
    (stepped : tree.step? cursor = some next) : tree.remaining next < tree.remaining cursor := by
  unfold step? at stepped
  split at stepped
  · rename_i child entered first
    cases stepped
    have hangs := parent?_firstChild? first
    simp only [remaining, Cursor.enter, entered, skipOffset_of_firstChild? first]
    by_cases top : cursor.node = 0
    · rw [top] at hangs
      rw [stepsAfter_of_top hangs]
      omega
    · rw [stepsAfter_of_parent? hangs top]
      omega
  · have same := remaining_leave? stepped
    have positive := tree.skipOffset_pos cursor.node
    rw [← same]
    unfold remaining
    split <;> omega

theorem remaining_advance?_lt {tree : Tree α} {cursor next : Cursor} {count : Nat}
    (advanced : tree.advance? cursor (count + 1) = some next) :
    tree.remaining next < tree.remaining cursor := by
  induction count generalizing cursor with
  | zero =>
    simp only [advance?] at advanced
    split at advanced
    · cases advanced
    · rename_i reached stepped
      cases advanced
      exact remaining_step?_lt stepped
  | succ count ih =>
    rw [advance?] at advanced
    split at advanced
    · cases advanced
    · rename_i reached stepped
      exact Nat.lt_trans (ih advanced) (remaining_step?_lt stepped)

def walkFrom (tree : Tree α) (cursor : Cursor) : List Cursor :=
  cursor ::
    match _stepped : tree.step? cursor with
    | none => []
    | some next => tree.walkFrom next
termination_by tree.remaining cursor
decreasing_by exact remaining_step?_lt (by assumption)

def walk (tree : Tree α) : List Cursor :=
  match tree.start? with
  | none => []
  | some cursor => tree.walkFrom cursor

def preorder (tree : Tree α) : List Nat :=
  (tree.walk.filter (·.phase = .enter)).map (·.node)

end Tree

end TileScript
