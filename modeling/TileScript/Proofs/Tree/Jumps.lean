import TileScript.Tree.Walk

namespace TileScript.Tree

variable {α : Type} {tree : Tree α}

def rise? (tree : Tree α) (node : Nat) : Option Cursor :=
  match tree.parent? node with
  | none => none
  | some parent => if parent = 0 then none else some (.back parent)

theorem rise?_of_parent? {tree : Tree α} {node parent : Nat}
    (hangs : tree.parent? node = some parent) (inner : parent ≠ 0) :
    tree.rise? node = some (.back parent) := by
  simp [rise?, hangs, inner]

theorem leave?_of_nextSibling? {tree : Tree α} {node sibling : Nat}
    (next : tree.nextSibling? node = some sibling) :
    tree.leave? node = some (.enter sibling) := by
  simp [leave?, next]

theorem leave?_of_last {tree : Tree α} {node : Nat} (last : tree.nextSibling? node = none) :
    tree.leave? node = tree.rise? node := by
  cases hangs : tree.parent? node <;> simp [leave?, rise?, last, hangs]

theorem nextSibling?_root (tree : Tree α) : tree.nextSibling? 0 = none := by
  cases next : tree.nextSibling? 0 with
  | none => rfl
  | some sibling =>
    have orphan : tree.parent? sibling = none := parent?_nextSibling? next
    have later := lt_nextSibling? next
    have known := nextSibling?_le_size next
    obtain ⟨index, rfl⟩ : ∃ index, sibling = index + 1 := ⟨sibling - 1, by omega⟩
    simp only [parent?, Option.map_eq_none_iff, Array.getElem?_eq_none_iff] at orphan
    simp only [size] at known
    omega

theorem leave?_root (tree : Tree α) : tree.leave? 0 = none := by
  rw [leave?_of_last tree.nextSibling?_root]
  rfl

theorem rise?_nextSibling? {tree : Tree α} {node sibling : Nat}
    (next : tree.nextSibling? node = some sibling) : tree.rise? sibling = tree.rise? node := by
  simp [rise?, parent?_nextSibling? next]

theorem step?_enter {tree : Tree α} {node child : Nat}
    (first : tree.firstChild? node = some child) :
    tree.step? (.enter node) = some (.enter child) := by
  simp [step?, Cursor.enter, first]

theorem step?_leaf {tree : Tree α} {node : Nat} (leaf : tree.firstChild? node = none) :
    tree.step? (.enter node) = tree.leave? node := by
  simp [step?, Cursor.enter, leaf]

theorem step?_back (tree : Tree α) (node : Nat) : tree.step? (.back node) = tree.leave? node := by
  simp [step?, Cursor.back]

theorem advance?_succ (tree : Tree α) (cursor : Cursor) (count : Nat) :
    tree.advance? cursor (count + 1) =
      (tree.step? cursor).bind (fun next => tree.advance? next count) := by
  rw [advance?]
  cases tree.step? cursor <;> rfl

theorem advance?_one (tree : Tree α) (cursor : Cursor) :
    tree.advance? cursor 1 = tree.step? cursor := by
  rw [advance?_succ]
  cases tree.step? cursor <;> rfl

theorem advance?_add (tree : Tree α) (cursor : Cursor) (first second : Nat) :
    tree.advance? cursor (first + second) =
      (tree.advance? cursor first).bind (fun next => tree.advance? next second) := by
  induction first generalizing cursor with
  | zero => simp [advance?]
  | succ first ih =>
    have split : first + 1 + second = first + second + 1 := by omega
    rw [split, advance?_succ, advance?_succ, Option.bind_assoc]
    congr 1
    funext next
    exact ih next

theorem skipOffset_of_leaf {tree : Tree α} {node : Nat} (leaf : tree.firstChild? node = none) :
    tree.skipOffset node = 1 := by
  rw [skipOffset_eq]
  simp [hasChildren, leaf]

theorem advance?_row {tree : Tree α} {node : Nat}
    (skips : ∀ sibling, tree.parent? sibling = tree.parent? node →
      tree.advance? (.enter sibling) (tree.skipOffset sibling) = tree.leave? sibling) :
    tree.advance? (.enter node) (tree.skipOffset node + tree.widthOf (tree.laterSiblings node)) =
      tree.rise? node := by
  generalize left : tree.size - node = bound
  induction bound using Nat.strongRecOn generalizing node with
  | ind bound ih =>
    rw [advance?_add, skips node rfl]
    cases next : tree.nextSibling? node with
    | none =>
      rw [laterSiblings_of_nextSibling?_none next, leave?_of_last next]
      cases tree.rise? node <;> rfl
    | some sibling =>
      have same := parent?_nextSibling? next
      have later := lt_nextSibling? next
      have known := nextSibling?_le_size next
      rw [laterSiblings_of_nextSibling? next, leave?_of_nextSibling? next, widthOf_cons,
        ← rise?_nextSibling? next]
      exact ih (tree.size - sibling) (by omega)
        (fun other hangs => skips other (hangs.trans same)) rfl

/-- The skip distance leads just past a node's subtree. -/
theorem advance?_skipOffset (tree : Tree α) (node : Nat) :
    tree.advance? (.enter node) (tree.skipOffset node) = tree.leave? node := by
  generalize left : tree.size - node = bound
  induction bound using Nat.strongRecOn generalizing node with
  | ind bound ih =>
    cases first : tree.firstChild? node with
    | none => rw [skipOffset_of_leaf first, advance?_one, step?_leaf first]
    | some child =>
      have hangs := parent?_firstChild? first
      have skips : ∀ sibling, tree.parent? sibling = tree.parent? child →
          tree.advance? (.enter sibling) (tree.skipOffset sibling) = tree.leave? sibling := by
        intro sibling same
        have under := same.trans hangs
        have below := parent?_lt under
        have known := le_size_of_parent? under
        exact ih (tree.size - sibling) (by omega) sibling rfl
      have split : 2 + (tree.skipOffset child + tree.widthOf (tree.laterSiblings child)) =
          1 + ((tree.skipOffset child + tree.widthOf (tree.laterSiblings child)) + 1) := by omega
      rw [skipOffset_of_firstChild? first, split, advance?_add, advance?_one, step?_enter first]
      change tree.advance? (.enter child) _ = _
      rw [advance?_add, advance?_row skips]
      by_cases top : node = 0
      · -- The root is never come back to, and nothing follows it.
        subst top
        rw [leave?_root]
        simp [rise?, hangs]
      · rw [rise?_of_parent? hangs top]
        change tree.advance? (.back node) 1 = _
        rw [advance?_one, step?_back]

theorem advance?_pastRow (tree : Tree α) (node : Nat) :
    tree.advance? (.enter node) (tree.skipOffset node + tree.widthOf (tree.laterSiblings node)) =
      tree.rise? node :=
  advance?_row (fun sibling _ => tree.advance?_skipOffset sibling)

theorem advance?_offsetToParentReturn {tree : Tree α} {node : Nat} {cursor : Cursor}
    (leaves : tree.step? cursor = tree.leave? node) :
    tree.advance? cursor (tree.offsetToParentReturn node) = tree.rise? node := by
  rw [offsetToParentReturn, advance?_add, advance?_one, leaves]
  cases next : tree.nextSibling? node with
  | none =>
    rw [leave?_of_last next, laterSiblings_of_nextSibling?_none next]
    cases tree.rise? node <;> rfl
  | some sibling =>
    rw [leave?_of_nextSibling? next, laterSiblings_of_nextSibling? next, widthOf_cons,
      ← rise?_nextSibling? next]
    exact tree.advance?_pastRow sibling

theorem offsetToParentReturn_pos (tree : Tree α) (node : Nat) :
    0 < tree.offsetToParentReturn node := by
  rw [offsetToParentReturn]
  omega

theorem climbTo?_eq (tree : Tree α) (node ancestor : Nat) :
    tree.climbTo? node ancestor =
      if node = ancestor then some 0
      else (tree.parent? node).bind (fun parent =>
        (tree.climbTo? parent ancestor).map (· + tree.offsetToParentReturn node)) := by
  rw [climbTo?]
  split
  · rfl
  · split <;> simp [*]

theorem climbTo?_root {tree : Tree α} {ancestor : Nat} (inner : ancestor ≠ 0) :
    tree.climbTo? 0 ancestor = none := by
  rw [climbTo?_eq]
  simp [parent?, inner.symm]

/-- Up from a node to one above its parent, and past that; past the root the walk is over. -/
theorem rise?_climbTo? {node parent ancestor steps : Nat} (hangs : tree.parent? node = some parent)
    (climb : tree.climbTo? parent ancestor = some steps) :
    (tree.rise? node).bind (fun cursor => tree.advance? cursor (steps + 1)) =
      tree.leave? ancestor := by
  induction node using Nat.strongRecOn generalizing parent steps with
  | ind node ih =>
    by_cases top : parent = 0
    · subst top
      have root : ancestor = 0 := by
        by_cases inner : ancestor = 0
        · exact inner
        · rw [climbTo?_root inner] at climb
          cases climb
      rw [root, leave?_root]
      simp [rise?, hangs]
    · rw [rise?_of_parent? hangs top, Option.bind_some]
      rw [climbTo?_eq] at climb
      split at climb
      · rename_i same
        cases climb
        rw [same, advance?_one, step?_back]
      · simp only [Option.bind_eq_some_iff, Option.map_eq_some_iff] at climb
        obtain ⟨outer, around, rest, above, rfl⟩ := climb
        have split : rest + tree.offsetToParentReturn parent + 1 =
            tree.offsetToParentReturn parent + (rest + 1) := by omega
        rw [split, advance?_add, advance?_offsetToParentReturn (tree.step?_back parent)]
        exact ih parent (parent?_lt hangs) around above

/-- The exit distance leads past the ancestor it is for, also past the root. -/
theorem advance?_offsetToExit? {node ancestor steps : Nat}
    (exit : tree.offsetToExit? node ancestor = some steps) :
    tree.advance? (.enter node) steps = tree.leave? ancestor := by
  unfold offsetToExit? at exit
  split at exit
  · cases exit
  · rename_i parent hangs
    obtain ⟨climbed, climb, rfl⟩ := Option.map_eq_some_iff.mp exit
    have split : climbed + (tree.skipOffset node + tree.widthOf (tree.laterSiblings node) + 1) =
        (tree.skipOffset node + tree.widthOf (tree.laterSiblings node)) + (climbed + 1) := by omega
    rw [split, advance?_add, advance?_pastRow]
    exact rise?_climbTo? hangs climb

theorem offsetToExit?_pos {tree : Tree α} {node ancestor steps : Nat}
    (exit : tree.offsetToExit? node ancestor = some steps) : 0 < steps := by
  unfold offsetToExit? at exit
  split at exit
  · cases exit
  · obtain ⟨climbed, _, rfl⟩ := Option.map_eq_some_iff.mp exit
    omega

theorem ancestors_eq (tree : Tree α) (node : Nat) :
    tree.ancestors node =
      match tree.parent? node with
      | none => []
      | some parent => if parent = 0 then [] else parent :: tree.ancestors parent := by
  rw [ancestors]
  split <;> simp [*]

theorem mem_ancestors_iff {tree : Tree α} {node ancestor : Nat} :
    ancestor ∈ tree.ancestors node ↔
      ∃ parent, tree.parent? node = some parent ∧ parent ≠ 0 ∧
        (ancestor = parent ∨ ancestor ∈ tree.ancestors parent) := by
  rw [ancestors_eq]
  cases tree.parent? node with
  | none => simp
  | some parent => by_cases top : parent = 0 <;> simp [top]

theorem ne_zero_of_mem_ancestors {tree : Tree α} {node ancestor : Nat}
    (above : ancestor ∈ tree.ancestors node) : ancestor ≠ 0 := by
  induction node using Nat.strongRecOn with
  | ind node ih =>
    obtain ⟨parent, hangs, inner, rfl | above⟩ := mem_ancestors_iff.mp above
    · exact inner
    · exact ih parent (parent?_lt hangs) above

theorem climbTo?_isSome {tree : Tree α} {node ancestor : Nat}
    (above : ancestor = node ∨ ancestor ∈ tree.ancestors node) :
    ∃ steps, tree.climbTo? node ancestor = some steps := by
  induction node using Nat.strongRecOn with
  | ind node ih =>
    rw [climbTo?_eq]
    by_cases same : node = ancestor
    · exact ⟨0, by simp [same]⟩
    · have strictly := above.resolve_left (Ne.symm same)
      obtain ⟨parent, hangs, _, reached⟩ := mem_ancestors_iff.mp strictly
      obtain ⟨steps, climb⟩ := ih parent (parent?_lt hangs) reached
      exact ⟨steps + tree.offsetToParentReturn node, by simp [same, hangs, climb]⟩

theorem offsetToExit?_isSome {tree : Tree α} {node ancestor : Nat}
    (above : ancestor ∈ tree.ancestors node) :
    ∃ steps, tree.offsetToExit? node ancestor = some steps := by
  obtain ⟨parent, hangs, _, reached⟩ := mem_ancestors_iff.mp above
  obtain ⟨climbed, climb⟩ := climbTo?_isSome reached
  exact ⟨_, by rw [offsetToExit?, hangs]; simp only [climb, Option.map_some]; rfl⟩

theorem advance?_withinRow {tree : Tree α} {node member index : Nat}
    (found : (node :: tree.laterSiblings node)[index]? = some member) :
    tree.advance? (.enter node)
        (tree.widthOf ((node :: tree.laterSiblings node).take index)) = some (.enter member) := by
  induction index generalizing node with
  | zero =>
    cases found
    rfl
  | succ index ih =>
    cases next : tree.nextSibling? node with
    | none => simp [laterSiblings_of_nextSibling?_none next] at found
    | some sibling =>
      rw [laterSiblings_of_nextSibling? next] at found ⊢
      rw [List.take_succ_cons, widthOf_cons, advance?_add, advance?_skipOffset,
        leave?_of_nextSibling? next]
      exact ih found

theorem offsetToChild?_eq_some_iff {tree : Tree α} {node index steps : Nat} :
    tree.offsetToChild? node index = some steps ↔
      index < (tree.children node).length ∧
        1 + tree.widthOf ((tree.children node).take index) = steps := by
  unfold offsetToChild?
  split <;> simp [*]

theorem advance?_offsetToChild? {tree : Tree α} {node index steps : Nat}
    (offset : tree.offsetToChild? node index = some steps) :
    ∃ child, (tree.children node)[index]? = some child ∧
      tree.advance? (.enter node) steps = some (.enter child) := by
  obtain ⟨inside, rfl⟩ := offsetToChild?_eq_some_iff.mp offset
  obtain ⟨member, located⟩ : ∃ member, (tree.children node)[index]? = some member :=
    ⟨_, List.getElem?_eq_getElem inside⟩
  refine ⟨member, located, ?_⟩
  cases first : tree.firstChild? node with
  | none =>
    rw [firstChild?_eq_head?, List.head?_eq_none_iff] at first
    simp [first] at inside
  | some child =>
    rw [children_of_firstChild? first] at located ⊢
    rw [advance?_add, advance?_one, step?_enter first]
    exact advance?_withinRow located

end TileScript.Tree
