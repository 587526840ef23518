import TileScript.Proofs.Tree.Preorder

namespace TileScript.Tree

variable {α : Type} {tree : Tree α} {outer node child : Nat} {cursor : Cursor}

def Holds (tree : Tree α) (outer node : Nat) : Prop :=
  node = outer ∨ outer ∈ tree.ancestors node

theorem holds_child {next : Nat} (inner : outer ≠ 0) (hangs : tree.parent? next = some node)
    (holds : tree.Holds outer node) : tree.Holds outer next := by
  rcases holds with rfl | below
  · exact .inr (parent_mem_ancestors hangs inner)
  · have deeper := Nat.zero_lt_of_lt (lt_of_mem_ancestors below)
    exact .inr (mem_ancestors_below below (.inr (parent_mem_ancestors hangs (by omega))))

/-- Of two nodes around a node, one is around the other. -/
theorem holds_or_holds {first second : Nat} (one : first ∈ tree.ancestors node)
    (other : second ∈ tree.ancestors node) : tree.Holds first second ∨ tree.Holds second first := by
  induction node using Nat.strongRecOn with
  | ind node ih =>
    obtain ⟨parent, hangs, _, here | above⟩ := mem_ancestors_iff.mp one
    · obtain ⟨_, same, _, reached⟩ := mem_ancestors_iff.mp other
      cases hangs.symm.trans same
      subst here
      exact .inr (reached.imp Eq.symm id)
    · obtain ⟨_, same, _, rfl | higher⟩ := mem_ancestors_iff.mp other
      · cases hangs.symm.trans same
        exact .inl (.inr above)
      · cases hangs.symm.trans same
        exact ih parent (parent?_lt hangs) above higher

theorem ancestors_nextSibling? {sibling : Nat} (next : tree.nextSibling? node = some sibling) :
    tree.ancestors sibling = tree.ancestors node := by
  simp only [ancestors_eq tree sibling, ancestors_eq tree node, parent?_nextSibling? next]

theorem mem_ancestors_of_parent? {parent : Nat} (hangs : tree.parent? node = some parent)
    (below : outer ∈ tree.ancestors node) (other : parent ≠ outer) :
    outer ∈ tree.ancestors parent := by
  obtain ⟨_, above, _, reached⟩ := mem_ancestors_iff.mp below
  cases hangs.symm.trans above
  exact reached.resolve_left other.symm

theorem widthOf_append (tree : Tree α) (left right : List Nat) :
    tree.widthOf (left ++ right) = tree.widthOf left + tree.widthOf right := by
  induction left with
  | nil => exact (Nat.zero_add _).symm
  | cons node left ih => rw [List.cons_append, widthOf_cons, widthOf_cons, ih, Nat.add_assoc]

theorem children_split (hangs : tree.parent? child = some node) :
    ∃ before, tree.children node = before ++ child :: tree.laterSiblings child := by
  rw [← parentAt_slots] at hangs
  rw [children_eq, laterSiblings_eq]
  exact Links.hanging_split hangs

theorem widthOf_child_le (hangs : tree.parent? child = some node) :
    tree.skipOffset child + tree.widthOf (tree.laterSiblings child) ≤
      tree.widthOf (tree.children node) := by
  obtain ⟨before, split⟩ := children_split hangs
  rw [split, widthOf_append, widthOf_cons]
  exact Nat.le_add_left ..

theorem skipOffset_of_child (hangs : tree.parent? child = some node) :
    tree.skipOffset node = 2 + tree.widthOf (tree.children node) := by
  obtain ⟨first, isFirst, _⟩ := firstChild?_le hangs
  rw [skipOffset_eq, hasChildren, isFirst]
  rfl

/-- The stretch of a subtree lies within that of its parent, which begins and ends outside it. -/
theorem stretch_child (hangs : tree.parent? child = some node) (inner : node ≠ 0) :
    tree.stepsAfter node < tree.stepsAfter child ∧
      tree.stepsAfter child + tree.skipOffset child <
        tree.stepsAfter node + tree.skipOffset node := by
  have after := stepsAfter_of_parent? hangs inner
  have width := skipOffset_of_child hangs
  have fits := widthOf_child_le hangs
  omega

theorem stretch_below (below : outer ∈ tree.ancestors node) :
    tree.stepsAfter outer < tree.stepsAfter node ∧
      tree.stepsAfter node + tree.skipOffset node <
        tree.stepsAfter outer + tree.skipOffset outer := by
  induction node using Nat.strongRecOn with
  | ind node ih =>
    obtain ⟨parent, hangs, inner, reached⟩ := mem_ancestors_iff.mp below
    have inside := stretch_child hangs inner
    rcases reached with rfl | above
    · exact inside
    · have further := ih parent (parent?_lt hangs) above
      omega

theorem stretch_holds (holds : tree.Holds outer node) :
    tree.stepsAfter outer ≤ tree.stepsAfter node ∧
      tree.stepsAfter node + tree.skipOffset node ≤
        tree.stepsAfter outer + tree.skipOffset outer := by
  rcases holds with rfl | below
  · exact ⟨Nat.le_refl _, Nat.le_refl _⟩
  · have inside := stretch_below below
    omega

/-- The stretch of a later sibling begins where that of the elder one is over, or after that. -/
theorem stretch_sibling {elder younger : Nat} (later : younger ∈ tree.laterSiblings elder) :
    tree.stepsAfter younger + tree.skipOffset younger ≤ tree.stepsAfter elder := by
  generalize left : tree.size - elder = bound
  induction bound using Nat.strongRecOn generalizing elder with
  | ind bound ih =>
    cases next : tree.nextSibling? elder with
    | none => simp [laterSiblings_of_nextSibling?_none next] at later
    | some sibling =>
      have onward := stepsAfter_of_nextSibling? next
      have after := lt_nextSibling? next
      have known := nextSibling?_le_size next
      rw [laterSiblings_of_nextSibling? next, List.mem_cons] at later
      rcases later with rfl | beyond
      · omega
      · have further := ih (tree.size - sibling) (by omega) beyond rfl
        omega

theorem remaining_enter (tree : Tree α) (node : Nat) :
    tree.remaining (.enter node) = tree.skipOffset node + tree.stepsAfter node := rfl

theorem remaining_back (tree : Tree α) (node : Nat) :
    tree.remaining (.back node) = 1 + tree.stepsAfter node := rfl

theorem remaining_bounds (tree : Tree α) (cursor : Cursor) :
    tree.stepsAfter cursor.node < tree.remaining cursor ∧
      tree.remaining cursor ≤ tree.stepsAfter cursor.node + tree.skipOffset cursor.node := by
  have positive := tree.skipOffset_pos cursor.node
  unfold remaining
  split <;> omega

/-- Either the first child is entered, or the node is left at the end of its stretch. -/
theorem step?_cases (tree : Tree α) (cursor : Cursor) :
    (∃ child, cursor = .enter cursor.node ∧ tree.firstChild? cursor.node = some child ∧
        tree.step? cursor = some (.enter child)) ∨
      (tree.step? cursor = tree.leave? cursor.node ∧
        tree.remaining cursor = tree.stepsAfter cursor.node + 1) := by
  obtain ⟨node, phase⟩ := cursor
  cases phase with
  | back => exact .inr ⟨tree.step?_back node, Nat.add_comm ..⟩
  | enter =>
    cases first : tree.firstChild? node with
    | some child => exact .inl ⟨child, rfl, rfl, step?_enter first⟩
    | none =>
      refine .inr ⟨step?_leaf first, ?_⟩
      change tree.remaining (.enter node) = _
      rw [remaining_enter, skipOffset_of_leaf first, Nat.add_comm]

theorem remaining_step? {next : Cursor} (stepped : tree.step? cursor = some next)
    (inner : cursor.node ≠ 0) : tree.remaining cursor = tree.remaining next + 1 := by
  obtain ⟨child, entered, first, down⟩ | ⟨leaves, last⟩ := tree.step?_cases cursor
  · cases down.symm.trans stepped
    rw [entered, remaining_enter, remaining_enter, skipOffset_of_firstChild? first,
      stepsAfter_of_parent? (parent?_firstChild? first) inner]
    omega
  · rw [last, remaining_leave? (leaves.symm.trans stepped)]

theorem step?_inside (inner : outer ≠ 0) (holds : tree.Holds outer cursor.node)
    (more : tree.stepsAfter outer + 1 < tree.remaining cursor) :
    ∃ next, tree.step? cursor = some next ∧ tree.Holds outer next.node := by
  obtain ⟨child, _, first, down⟩ | ⟨leaves, last⟩ := tree.step?_cases cursor
  · exact ⟨.enter child, down, holds_child inner (parent?_firstChild? first) holds⟩
  · -- The outer node itself is left only at the end of its stretch, so this one is below it.
    have below : outer ∈ tree.ancestors cursor.node := by
      refine holds.resolve_left fun here => ?_
      rw [last, here] at more
      omega
    rw [leaves]
    cases next : tree.nextSibling? cursor.node with
    | some sibling =>
      exact ⟨.enter sibling, leave?_of_nextSibling? next,
        .inr (ancestors_nextSibling? next ▸ below)⟩
    | none =>
      obtain ⟨parent, hangs, inside, reached⟩ := mem_ancestors_iff.mp below
      exact ⟨.back parent, (leave?_of_last next).trans (rise?_of_parent? hangs inside),
        reached.imp Eq.symm id⟩

theorem advance?_inside (inner : node ≠ 0) {count : Nat} (within : count < tree.skipOffset node) :
    ∃ cursor, tree.advance? (.enter node) count = some cursor ∧ tree.Holds node cursor.node ∧
      tree.remaining cursor + count = tree.stepsAfter node + tree.skipOffset node := by
  induction count with
  | zero =>
    refine ⟨.enter node, rfl, .inl rfl, ?_⟩
    rw [remaining_enter]
    omega
  | succ count ih =>
    obtain ⟨cursor, reached, holds, left⟩ := ih (by omega)
    obtain ⟨next, stepped, inside⟩ := step?_inside inner holds (by omega)
    have apart : cursor.node ≠ 0 := by
      rcases holds with here | below
      · exact here ▸ inner
      · have above := lt_of_mem_ancestors below
        omega
    have used := remaining_step? stepped apart
    refine ⟨next, ?_, inside, by omega⟩
    rw [advance?_add, reached, Option.bind_some, advance?_one, stepped]

end TileScript.Tree
