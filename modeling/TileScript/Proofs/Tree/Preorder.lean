import Mathlib.Data.List.Sort
import TileScript.Proofs.Tree.Growth

namespace TileScript

inductive Forest (α : Type) where
  | nil
  | cons (item : α) (children rest : Forest α)

namespace Forest

variable {α β : Type}

def items : Forest α → List α
  | nil => []
  | cons item children rest => item :: (children.items ++ rest.items)

def outline : Forest α → Nat → List (Nat × α)
  | nil, _ => []
  | cons item children rest, depth =>
    (depth, item) :: (children.outline (depth + 1) ++ rest.outline depth)

def map (change : α → β) : Forest α → Forest β
  | nil => nil
  | cons item children rest => cons (change item) (children.map change) (rest.map change)

def breadth : Forest α → Nat
  | nil => 0
  | cons _ _ rest => rest.breadth + 1

def Every (holds : α → Forest α → Prop) : Forest α → Prop
  | nil => True
  | cons item children rest => holds item children ∧ children.Every holds ∧ rest.Every holds

theorem outline_map (change : α → β) (forest : Forest α) (depth : Nat) :
    (forest.map change).outline depth =
      (forest.outline depth).map (fun line => (line.1, change line.2)) := by
  induction forest generalizing depth with
  | nil => rfl
  | cons item children rest children_ih rest_ih =>
    simp [map, outline, children_ih, rest_ih]

theorem breadth_map (change : α → β) (forest : Forest α) :
    (forest.map change).breadth = forest.breadth := by
  induction forest with
  | nil => rfl
  | cons item children rest _ rest_ih => simp [map, breadth, rest_ih]

theorem every_map_iff {holds : β → Forest β → Prop} {change : α → β} {forest : Forest α} :
    (forest.map change).Every holds ↔
      forest.Every (fun item children => holds (change item) (children.map change)) := by
  induction forest with
  | nil => exact Iff.rfl
  | cons item children rest children_ih rest_ih =>
    exact and_congr_right fun _ => and_congr children_ih rest_ih

def Above (depth : Nat) (lines : List (Nat × α)) : Prop := ∀ line ∈ lines.head?, line.1 < depth

theorem above_outline {tail : List (Nat × α)} {depth : Nat} (above : Above depth tail)
    (forest : Forest α) : Above (depth + 1) (forest.outline depth ++ tail) := by
  cases forest with
  | nil =>
    intro line first
    exact Nat.lt_succ_of_lt (above line first)
  | cons item children rest =>
    rintro line ⟨⟩
    exact Nat.lt_succ_self depth

/-- Where a forest's lines end is told by the depths. -/
theorem outline_append_inj {first second : Forest α} {depth : Nat} {left right : List (Nat × α)}
    (aboveLeft : Above depth left) (aboveRight : Above depth right)
    (same : first.outline depth ++ left = second.outline depth ++ right) :
    first = second ∧ left = right := by
  induction first generalizing second depth left right with
  | nil =>
    cases second with
    | nil => exact ⟨rfl, same⟩
    | cons item children rest =>
      rw [show left = _ from same] at aboveLeft
      exact absurd (aboveLeft (depth, item) rfl) (Nat.lt_irrefl depth)
  | cons item children rest children_ih rest_ih =>
    cases second with
    | nil =>
      rw [← show _ = right from same] at aboveRight
      exact absurd (aboveRight (depth, item) rfl) (Nat.lt_irrefl depth)
    | cons other below after =>
      simp only [outline, List.cons_append, List.append_assoc, List.cons.injEq, Prod.mk.injEq,
        true_and] at same
      obtain ⟨rfl, inside⟩ := same
      obtain ⟨rfl, beside⟩ :=
        children_ih (above_outline aboveLeft rest) (above_outline aboveRight after) inside
      obtain ⟨rfl, left⟩ := rest_ih aboveLeft aboveRight beside
      exact ⟨rfl, left⟩

theorem outline_injective {first second : Forest α} (depth : Nat)
    (same : first.outline depth = second.outline depth) : first = second := by
  have none : Above depth ([] : List (Nat × α)) := fun line first => nomatch first
  exact (outline_append_inj none none (congrArg (· ++ []) same)).1

end Forest

namespace Tree

variable {α : Type}

theorem firstChild?_bounds {tree : Tree α} {node child : Nat}
    (first : tree.firstChild? node = some child) : node < child ∧ child ≤ tree.size :=
  ⟨parent?_lt (parent?_firstChild? first), le_size_of_parent? (parent?_firstChild? first)⟩

def forestFrom (tree : Tree α) : Option Nat → Forest Nat
  | none => .nil
  | some node =>
    .cons node (tree.forestFrom (tree.firstChild? node)) (tree.forestFrom (tree.nextSibling? node))
termination_by start => start.elim 0 (fun node => tree.size - node + 1)
decreasing_by
  · cases first : tree.firstChild? node with
    | none => simp
    | some child =>
      have bounds := firstChild?_bounds first
      simp only [Option.elim_some]
      omega
  · cases next : tree.nextSibling? node with
    | none => simp
    | some sibling =>
      have later := lt_nextSibling? next
      have known := nextSibling?_le_size next
      simp only [Option.elim_some]
      omega

def forest (tree : Tree α) : Forest Nat := tree.forestFrom (tree.firstChild? 0)

def depth (tree : Tree α) (node : Nat) : Nat := (tree.ancestors node).length

def pending (tree : Tree α) (node : Nat) : List Nat :=
  match _hangs : tree.parent? node with
  | none => []
  | some parent =>
    if parent = 0 then []
    else (tree.forestFrom (tree.nextSibling? parent)).items ++ tree.pending parent
termination_by node
decreasing_by exact parent?_lt _hangs

theorem forestFrom_none (tree : Tree α) : tree.forestFrom none = .nil := by
  rw [forestFrom]

theorem forestFrom_some (tree : Tree α) (node : Nat) :
    tree.forestFrom (some node) =
      .cons node (tree.forestFrom (tree.firstChild? node))
        (tree.forestFrom (tree.nextSibling? node)) := by
  rw [forestFrom]

theorem pending_eq (tree : Tree α) (node : Nat) :
    tree.pending node =
      match tree.parent? node with
      | none => []
      | some parent =>
        if parent = 0 then []
        else (tree.forestFrom (tree.nextSibling? parent)).items ++ tree.pending parent := by
  rw [pending]
  split <;> simp [*]

theorem pending_of_nextSibling? {tree : Tree α} {node sibling : Nat}
    (next : tree.nextSibling? node = some sibling) : tree.pending sibling = tree.pending node := by
  rw [pending_eq tree sibling, pending_eq tree node, parent?_nextSibling? next]

theorem pending_of_firstChild? {tree : Tree α} {node child : Nat}
    (first : tree.firstChild? node = some child) :
    tree.pending child =
      (tree.forestFrom (tree.nextSibling? node)).items ++ tree.pending node := by
  rw [pending_eq, parent?_firstChild? first]
  by_cases top : node = 0
  · subst top
    rw [nextSibling?_root, forestFrom_none, pending_eq]
    rfl
  · simp only [top, ↓reduceIte]

def entered (tree : Tree α) (start : Option Cursor) : List Nat :=
  ((start.elim [] tree.walkFrom).filter (·.phase = .enter)).map (·.node)

theorem walkFrom_eq (tree : Tree α) (cursor : Cursor) :
    tree.walkFrom cursor = cursor :: (tree.step? cursor).elim [] tree.walkFrom := by
  rw [walkFrom]
  split <;> simp [*]

theorem entered_enter (tree : Tree α) (node : Nat) :
    tree.entered (some (.enter node)) = node :: tree.entered (tree.step? (.enter node)) := by
  rw [entered, Option.elim_some, walkFrom_eq]
  rfl

theorem entered_back (tree : Tree α) (node : Nat) :
    tree.entered (some (.back node)) = tree.entered (tree.step? (.back node)) := by
  rw [entered, Option.elim_some, walkFrom_eq]
  rfl

theorem entered_eq (tree : Tree α) (cursor : Cursor) :
    tree.entered (some cursor) =
      (tree.forestFrom (match cursor.phase with
        | .enter => some cursor.node
        | .back => tree.nextSibling? cursor.node)).items ++ tree.pending cursor.node := by
  -- Induction on the steps that are left, as a walk comes back to the nodes it entered.
  generalize bound : tree.remaining cursor = limit
  induction limit using Nat.strongRecOn generalizing cursor with
  | ind limit ih =>
    have steps : ∀ next, tree.step? cursor = some next → tree.entered (some next) = _ :=
      fun next stepped => ih _ (bound ▸ remaining_step?_lt stepped) next rfl
    -- What follows a node whose children are done, whichever way the walk got there.
    have leaves : tree.step? cursor = tree.leave? cursor.node →
        tree.entered (tree.leave? cursor.node) =
          (tree.forestFrom (tree.nextSibling? cursor.node)).items ++ tree.pending cursor.node := by
      intro leaving
      rw [leaving] at steps
      cases next : tree.nextSibling? cursor.node with
      | some sibling =>
        rw [leave?_of_nextSibling? next] at steps ⊢
        rw [steps _ rfl, ← pending_of_nextSibling? next]
        rfl
      | none =>
        rw [leave?_of_last next] at steps ⊢
        rw [forestFrom_none, pending_eq]
        cases hangs : tree.parent? cursor.node with
        | none =>
          simp only [rise?, hangs]
          rfl
        | some parent =>
          by_cases top : parent = 0
          · simp only [rise?, hangs, top, ↓reduceIte]
            rfl
          · rw [rise?_of_parent? hangs top] at steps ⊢
            rw [steps _ rfl]
            simp only [top, ↓reduceIte]
            rfl
    obtain ⟨node, phase⟩ := cursor
    cases phase with
    | back => exact (tree.entered_back node).trans (by
        rw [step?_back]
        exact leaves (tree.step?_back node))
    | enter =>
      refine (tree.entered_enter node).trans ?_
      rw [forestFrom_some]
      simp only [Forest.items, List.cons_append, List.append_assoc]
      congr 1
      cases first : tree.firstChild? node with
      | none =>
        rw [step?_leaf first, leaves (step?_leaf first), forestFrom_none]
        rfl
      | some child =>
        rw [step?_enter first, steps _ (step?_enter first), ← pending_of_firstChild? first]
        rfl

theorem preorder_eq_items (tree : Tree α) : tree.preorder = tree.forest.items := by
  have listed : tree.preorder = tree.entered tree.start? := by
    unfold preorder walk entered
    cases tree.start? <;> rfl
  rw [listed, start?, forest]
  cases first : tree.firstChild? 0 with
  | none => rw [forestFrom_none]; rfl
  | some child =>
    have walked : tree.entered (some (.enter child)) =
        (tree.forestFrom (some child)).items ++ tree.pending child := tree.entered_eq (.enter child)
    rw [Option.map_some, walked, pending_of_firstChild? first, nextSibling?_root, forestFrom_none,
      pending_eq]
    exact List.append_nil _

theorem ancestors_trans {tree : Tree α} {node inner last : Nat}
    (above : node ∈ tree.ancestors inner) (around : inner ∈ tree.ancestors last) :
    node ∈ tree.ancestors last := by
  induction last using Nat.strongRecOn with
  | ind last ih =>
    obtain ⟨parent, hangs, top, reached⟩ := mem_ancestors_iff.mp around
    refine mem_ancestors_iff.mpr ⟨parent, hangs, top, .inr ?_⟩
    rcases reached with rfl | higher
    · exact above
    · exact ih parent (parent?_lt hangs) higher

theorem mem_ancestors_below {tree : Tree α} {inner top node : Nat}
    (around : inner ∈ tree.ancestors top) (reached : node = top ∨ top ∈ tree.ancestors node) :
    inner ∈ tree.ancestors node := by
  rcases reached with rfl | higher
  · exact around
  · exact ancestors_trans around higher

theorem mem_ancestors_above {tree : Tree α} {inner top last : Nat}
    (around : inner ∈ tree.ancestors last) (reached : inner = top ∨ top ∈ tree.ancestors inner) :
    top ∈ tree.ancestors last := by
  rcases reached with rfl | higher
  · exact around
  · exact ancestors_trans higher around

theorem parent_mem_ancestors {tree : Tree α} {node parent : Nat}
    (hangs : tree.parent? node = some parent) (inner : parent ≠ 0) :
    parent ∈ tree.ancestors node :=
  mem_ancestors_iff.mpr ⟨parent, hangs, inner, .inl rfl⟩

theorem depth_of_parent? {tree : Tree α} {node parent : Nat}
    (hangs : tree.parent? node = some parent) :
    tree.depth node = if parent = 0 then 0 else tree.depth parent + 1 := by
  rw [depth, ancestors_of_parent? hangs]
  split <;> rfl

theorem depth_of_nextSibling? {tree : Tree α} {node sibling : Nat}
    (next : tree.nextSibling? node = some sibling) : tree.depth sibling = tree.depth node := by
  simp only [depth, ancestors_eq tree sibling, ancestors_eq tree node, parent?_nextSibling? next]

theorem outline_forestFrom (tree : Tree α) (start : Option Nat) (depth : Nat)
    (level : ∀ node ∈ start, node ≠ 0 ∧ tree.depth node = depth) :
    (tree.forestFrom start).outline depth =
      (tree.forestFrom start).items.map (fun node => (tree.depth node, node)) := by
  fun_induction forestFrom tree start generalizing depth with
  | case1 => rfl
  | case2 node children_ih rest_ih =>
    obtain ⟨inner, here⟩ := level node rfl
    have below := children_ih (depth + 1) (fun child first => by
      have hangs := parent?_firstChild? first
      have deeper := depth_of_parent? hangs
      rw [if_neg inner, here] at deeper
      exact ⟨by have := parent?_lt hangs; omega, deeper⟩)
    have beside := rest_ih depth (fun sibling next => by
      have later := lt_nextSibling? next
      exact ⟨by omega, (depth_of_nextSibling? next).trans here⟩)
    simp only [Forest.outline, Forest.items, List.map_cons, List.map_append, below, beside, here]

/-- The forest read line by line: every node at its depth, in pre-order. -/
theorem outline_forest (tree : Tree α) :
    tree.forest.outline 0 = tree.preorder.map (fun node => (tree.depth node, node)) := by
  rw [preorder_eq_items, forest]
  refine outline_forestFrom tree _ 0 (fun child first => ?_)
  have hangs := parent?_firstChild? first
  have below := parent?_lt hangs
  exact ⟨by omega, depth_of_parent? hangs⟩

theorem exists_child_above {tree : Tree α} {node last : Nat} (above : node ∈ tree.ancestors last) :
    ∃ child, tree.parent? child = some node ∧ (last = child ∨ child ∈ tree.ancestors last) := by
  induction last using Nat.strongRecOn with
  | ind last ih =>
    obtain ⟨parent, hangs, inner, rfl | higher⟩ := mem_ancestors_iff.mp above
    · exact ⟨last, hangs, .inl rfl⟩
    · obtain ⟨child, under, reached⟩ := ih parent (parent?_lt hangs) higher
      exact ⟨child, under, .inr (mem_ancestors_above (parent_mem_ancestors hangs inner) reached)⟩

theorem firstChild?_le {tree : Tree α} {node child : Nat} (hangs : tree.parent? child = some node) :
    ∃ first, tree.firstChild? node = some first ∧ first ≤ child := by
  have below := parent?_lt hangs
  have known := le_size_of_parent? hangs
  have found : (tree.firstChild? node).isSome := by
    rw [firstChild?_eq_find?]
    refine List.find?_isSome.mpr
      ⟨child, List.mem_range'_1.mpr ⟨by omega, by omega⟩, by simp [hangs]⟩
  obtain ⟨first, isFirst⟩ := Option.isSome_iff_exists.mp found
  refine ⟨first, isFirst, Nat.le_of_not_lt fun before => ?_⟩
  rw [firstChild?_eq_find?] at isFirst
  have none := (List.find?_range'_eq_some.mp isFirst).2.2 child (by omega) before
  simp [hangs] at none

theorem nextSibling?_le {tree : Tree α} {node other : Nat} (after : node < other)
    (known : other ≤ tree.size) (same : tree.parent? other = tree.parent? node) :
    ∃ sibling, tree.nextSibling? node = some sibling ∧ sibling ≤ other := by
  cases next : tree.nextSibling? node with
  | none => exact absurd same (nextSibling?_eq_none_iff.mp next other after known)
  | some sibling =>
    refine ⟨sibling, rfl, Nat.le_of_not_lt fun before => ?_⟩
    exact (nextSibling?_eq_some_iff.mp next).2.2 other after before same

/-- The forest of a node holds what hangs at or under the node and its later siblings. -/
theorem mem_items_forestFrom {tree : Tree α} {start : Option Nat} {node : Nat}
    (placed : ∀ first ∈ start, ∃ parent, tree.parent? first = some parent) :
    node ∈ (tree.forestFrom start).items ↔
      ∃ first ∈ start, ∃ top, tree.parent? top = tree.parent? first ∧ first ≤ top ∧
        (node = top ∨ top ∈ tree.ancestors node) := by
  fun_induction forestFrom tree start with
  | case1 => simp [Forest.items]
  | case2 first children_ih rest_ih =>
    obtain ⟨parent, hangs⟩ := placed first rfl
    have below := parent?_lt hangs
    have inside := children_ih (fun child under => ⟨first, parent?_firstChild? under⟩)
    have beside := rest_ih (fun sibling next => ⟨parent, (parent?_nextSibling? next).trans hangs⟩)
    simp only [Forest.items, List.mem_cons, List.mem_append, inside, beside, Option.mem_def,
      Option.some.injEq, exists_eq_left']
    constructor
    · rintro (rfl | ⟨child, under, top, same, _, reached⟩ |
        ⟨sibling, next, top, same, later, reached⟩)
      · exact ⟨node, rfl, Nat.le_refl _, .inl rfl⟩
      · have around : first ∈ tree.ancestors top :=
          parent_mem_ancestors (same.trans (parent?_firstChild? under)) (by omega)
        exact ⟨first, rfl, Nat.le_refl _, .inr (mem_ancestors_below around reached)⟩
      · have after := lt_nextSibling? next
        exact ⟨top, same.trans (parent?_nextSibling? next), by omega, reached⟩
    · rintro ⟨top, same, later, reached⟩
      rcases Nat.eq_or_lt_of_le later with rfl | after
      · rcases reached with here | above
        · exact .inl here
        · obtain ⟨child, under, reached⟩ := exists_child_above above
          obtain ⟨eldest, isFirst, order⟩ := firstChild?_le under
          refine .inr (.inl ⟨eldest, isFirst, child, ?_, order, reached⟩)
          rw [under, parent?_firstChild? isFirst]
      · have known := le_size_of_parent? (same.trans hangs)
        obtain ⟨sibling, next, order⟩ := nextSibling?_le after known same
        refine .inr (.inr ⟨sibling, next, top, ?_, order, reached⟩)
        rw [same, parent?_nextSibling? next]

/-- The walk enters every node. -/
theorem mem_preorder_iff {tree : Tree α} {node : Nat} :
    node ∈ tree.preorder ↔ 0 < node ∧ node ≤ tree.size := by
  rw [preorder_eq_items, forest,
    mem_items_forestFrom (fun first isFirst => ⟨0, parent?_firstChild? isFirst⟩)]
  constructor
  · rintro ⟨first, isFirst, top, same, _, reached⟩
    have hangs := same.trans (parent?_firstChild? isFirst)
    have positive := parent?_lt hangs
    rcases reached with rfl | above
    · exact ⟨positive, le_size_of_parent? hangs⟩
    · obtain ⟨parent, hangs, _⟩ := mem_ancestors_iff.mp above
      have later := lt_of_mem_ancestors above
      exact ⟨by omega, le_size_of_parent? hangs⟩
  · rintro ⟨positive, known⟩
    have rooted : ∃ top, tree.parent? top = some 0 ∧ (node = top ∨ top ∈ tree.ancestors node) := by
      induction node using Nat.strongRecOn with
      | ind node ih =>
        obtain ⟨parent, hangs⟩ := parent?_isSome positive known
        by_cases outer : parent = 0
        · exact ⟨node, outer ▸ hangs, .inl rfl⟩
        · have below := parent?_lt hangs
          obtain ⟨top, atRoot, reached⟩ := ih parent below (by omega) (by omega)
          have around := parent_mem_ancestors hangs outer
          exact ⟨top, atRoot, .inr (mem_ancestors_above around reached)⟩
    obtain ⟨top, atRoot, reached⟩ := rooted
    obtain ⟨first, isFirst, order⟩ := firstChild?_le atRoot
    exact ⟨first, isFirst, top, atRoot.trans (parent?_firstChild? isFirst).symm, order, reached⟩

def InOrder (tree : Tree α) : Prop :=
  ∀ node parent, tree.parent? (node + 1) = some parent →
    parent = 0 ∨ parent = node ∨ parent ∈ tree.ancestors node

namespace InOrder

variable {tree : Tree α} (inOrder : tree.InOrder)

include inOrder

/-- What comes between a node and a later one under it is under it as well. -/
theorem mem_ancestors {node inner last : Nat} (above : node = last ∨ node ∈ tree.ancestors last)
    (after : node < inner) (within : inner ≤ last) : node ∈ tree.ancestors inner := by
  induction last with
  | zero => omega
  | succ last ih =>
    have under : node ∈ tree.ancestors (last + 1) := above.resolve_left (by omega)
    rcases Nat.eq_or_lt_of_le within with rfl | earlier
    · exact under
    · refine ih ?_ (by omega)
      obtain ⟨parent, hangs, top, reached⟩ := mem_ancestors_iff.mp under
      rcases inOrder last parent hangs with root | rfl | higher
      · exact absurd root top
      · exact reached
      · rcases reached with rfl | above
        · exact .inr higher
        · exact .inr (ancestors_trans above higher)

theorem pairwise_items (start : Option Nat)
    (placed : ∀ first ∈ start, ∃ parent, tree.parent? first = some parent) :
    (tree.forestFrom start).items.Pairwise (· < ·) := by
  fun_induction forestFrom tree start with
  | case1 => exact .nil
  | case2 first children_ih rest_ih =>
    obtain ⟨parent, hangs⟩ := placed first rfl
    have below := parent?_lt hangs
    have under : ∀ child ∈ tree.firstChild? first, ∃ parent, tree.parent? child = some parent :=
      fun child isFirst => ⟨first, parent?_firstChild? isFirst⟩
    have beside : ∀ sibling ∈ tree.nextSibling? first,
        ∃ parent, tree.parent? sibling = some parent :=
      fun sibling next => ⟨parent, (parent?_nextSibling? next).trans hangs⟩
    have inside : ∀ node ∈ (tree.forestFrom (tree.firstChild? first)).items,
        first ∈ tree.ancestors node := by
      intro node member
      obtain ⟨child, isFirst, top, same, _, reached⟩ := (mem_items_forestFrom under).mp member
      have around : first ∈ tree.ancestors top :=
        parent_mem_ancestors (same.trans (parent?_firstChild? isFirst)) (by omega)
      exact mem_ancestors_below around reached
    have later : ∀ node ∈ (tree.forestFrom (tree.nextSibling? first)).items,
        ∃ sibling, tree.nextSibling? first = some sibling ∧ sibling ≤ node := by
      intro node member
      obtain ⟨sibling, next, top, _, order, reached⟩ := (mem_items_forestFrom beside).mp member
      refine ⟨sibling, next, ?_⟩
      rcases reached with rfl | above
      · exact order
      · have := lt_of_mem_ancestors above
        omega
    refine List.pairwise_cons.mpr ⟨fun node member => ?_, List.pairwise_append.mpr
      ⟨children_ih under, rest_ih beside, fun node inner other outer => ?_⟩⟩
    · rcases List.mem_append.mp member with inner | outer
      · exact lt_of_mem_ancestors (inside node inner)
      · obtain ⟨sibling, next, order⟩ := later node outer
        have after := lt_nextSibling? next
        omega
    · -- A sibling in the middle of what hangs under the node would hang under it too.
      obtain ⟨sibling, next, order⟩ := later other outer
      refine Nat.lt_of_lt_of_le (Nat.lt_of_not_le fun reached => ?_) order
      have above := inOrder.mem_ancestors (.inr (inside node inner)) (lt_nextSibling? next) reached
      obtain ⟨shared, around, _, same⟩ := mem_ancestors_iff.mp above
      rw [parent?_nextSibling? next, hangs] at around
      cases around
      rcases same with rfl | higher
      · omega
      · have := lt_of_mem_ancestors higher
        omega

theorem preorder_eq_range' : tree.preorder = List.range' 1 tree.size := by
  have ascending : tree.preorder.Pairwise (· < ·) := by
    rw [preorder_eq_items]
    exact inOrder.pairwise_items _ (fun first isFirst => ⟨0, parent?_firstChild? isFirst⟩)
  refine ascending.eq_of_mem_iff (List.pairwise_lt_range' ..) (fun node => ?_)
  rw [mem_preorder_iff, List.mem_range'_1]
  omega

end InOrder

theorem breadth_forestFrom (tree : Tree α) (start : Option Nat) :
    (tree.forestFrom start).breadth =
      start.elim 0 (fun first => (tree.laterSiblings first).length + 1) := by
  fun_induction forestFrom tree start with
  | case1 => rfl
  | case2 first children_ih rest_ih =>
    rw [Forest.breadth, rest_ih]
    cases next : tree.nextSibling? first with
    | none => simp [laterSiblings_of_nextSibling?_none next]
    | some sibling => simp [laterSiblings_of_nextSibling? next]

theorem breadth_firstChild? (tree : Tree α) (node : Nat) :
    (tree.forestFrom (tree.firstChild? node)).breadth = (tree.children node).length := by
  rw [breadth_forestFrom]
  cases first : tree.firstChild? node with
  | none =>
    rw [firstChild?_eq_head?, List.head?_eq_none_iff] at first
    simp [first]
  | some child => simp [children_of_firstChild? first]

theorem every_forestFrom_iff {tree : Tree α} {holds : Nat → Forest Nat → Prop}
    {start : Option Nat} :
    (tree.forestFrom start).Every holds ↔
      ∀ node ∈ (tree.forestFrom start).items,
        holds node (tree.forestFrom (tree.firstChild? node)) := by
  fun_induction forestFrom tree start with
  | case1 => simp [Forest.items, Forest.Every]
  | case2 first children_ih rest_ih =>
    rw [Forest.Every, children_ih, rest_ih, Forest.items, List.forall_mem_cons,
      List.forall_mem_append]

end Tree

end TileScript
