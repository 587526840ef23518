import Mathlib.Data.List.Sort
import Mathlib.Order.Interval.Finset.Nat
import TileScript.Proofs.Tree.Built
import TileScript.Proofs.Tree.Landings

namespace TileScript.Tree

variable {α : Type} {tree : Tree α} {node : Nat} {cursor next : Cursor}

theorem getElem?_walkFrom (tree : Tree α) (cursor : Cursor) (count : Nat) :
    (tree.walkFrom cursor)[count]? = tree.advance? cursor count := by
  induction count generalizing cursor with
  | zero =>
    rw [walkFrom_eq]
    rfl
  | succ count ih =>
    rw [walkFrom_eq, List.getElem?_cons_succ, advance?_succ]
    cases tree.step? cursor with
    | none => rfl
    | some next => exact ih next

theorem getElem?_walk (tree : Tree α) (count : Nat) :
    tree.walk[count]? = tree.start?.bind (tree.advance? · count) := by
  unfold walk
  cases tree.start? with
  | none => rfl
  | some cursor => exact tree.getElem?_walkFrom cursor count

def Precedes (tree : Tree α) (earlier later : Cursor) : Prop :=
  tree.remaining later < tree.remaining earlier

instance (tree : Tree α) : Std.Antisymm tree.Precedes :=
  ⟨fun _ _ one other => absurd other (Nat.lt_asymm one)⟩

theorem nodup_of_precedes {cursors : List Cursor} (ordered : cursors.Pairwise tree.Precedes) :
    cursors.Nodup := by
  refine ordered.imp ?_
  rintro earlier later used rfl
  exact Nat.lt_irrefl _ used

structure Fits (tree : Tree α) (cursor : Cursor) : Prop where
  inside : 0 < cursor.node ∧ cursor.node ≤ tree.size
  branches : cursor.phase = .back → tree.hasChildren cursor.node = true

theorem hasChildren_of_parent? {child : Nat} (hangs : tree.parent? child = some node) :
    tree.hasChildren node = true := by
  obtain ⟨first, isFirst, _⟩ := firstChild?_le hangs
  rw [hasChildren, isFirst]
  rfl

theorem fits_step? (stepped : tree.step? cursor = some next) : tree.Fits next where
  inside := inside_of_step? stepped
  branches := by
    intro back
    obtain ⟨child, _, _, down⟩ | ⟨leaves, _⟩ := tree.step?_cases cursor
    · cases down.symm.trans stepped
      cases back
    · rw [leaves] at stepped
      cases after : tree.nextSibling? cursor.node with
      | some sibling =>
        cases (leave?_of_nextSibling? after).symm.trans stepped
        cases back
      | none =>
        rw [leave?_of_last after, rise?] at stepped
        split at stepped
        · cases stepped
        · rename_i parent hangs
          split at stepped
          · cases stepped
          · cases stepped
            exact hasChildren_of_parent? hangs

/-- Along the walk what is left of it goes down, and nothing but the nodes of the tree is met. -/
theorem walkFrom_descends (fits : tree.Fits cursor) :
    (tree.walkFrom cursor).Pairwise tree.Precedes ∧
      ∀ member ∈ tree.walkFrom cursor,
        tree.Fits member ∧ tree.remaining member ≤ tree.remaining cursor := by
  induction cursor using walkFrom.induct tree with
  | case1 cursor ih =>
    rw [walkFrom_eq]
    cases stepped : tree.step? cursor with
    | none =>
      refine ⟨List.pairwise_singleton .., fun member here => ?_⟩
      cases List.mem_singleton.mp here
      exact ⟨fits, Nat.le_refl _⟩
    | some next =>
      obtain ⟨descends, members⟩ := ih next stepped (fits_step? stepped)
      have used := remaining_step?_lt stepped
      refine ⟨List.pairwise_cons.mpr ⟨fun member later => ?_, descends⟩, fun member met => ?_⟩
      · exact Nat.lt_of_le_of_lt (members member later).2 used
      · rcases List.mem_cons.mp met with rfl | later
        · exact ⟨fits, Nat.le_refl _⟩
        · have known := members member later
          exact ⟨known.1, by omega⟩

theorem fits_start? (start : tree.start? = some cursor) : tree.Fits cursor := by
  obtain ⟨first, isFirst, rfl⟩ := Option.map_eq_some_iff.mp start
  exact ⟨firstChild?_bounds isFirst, fun back => nomatch back⟩

theorem pairwise_walk (tree : Tree α) : tree.walk.Pairwise tree.Precedes := by
  unfold walk
  cases start : tree.start? with
  | none => exact .nil
  | some cursor => exact (walkFrom_descends (fits_start? start)).1

theorem fits_of_mem_walk (member : cursor ∈ tree.walk) : tree.Fits cursor := by
  unfold walk at member
  cases start : tree.start? with
  | none => simp [start] at member
  | some first =>
    rw [start] at member
    exact ((walkFrom_descends (fits_start? start)).2 cursor member).1

theorem enter_mem_walk (inside : 0 < node ∧ node ≤ tree.size) : .enter node ∈ tree.walk := by
  have entered := mem_preorder_iff.mpr inside
  obtain ⟨⟨_, phase⟩, member, rfl⟩ := List.mem_map.mp entered
  obtain ⟨member, enters⟩ := List.mem_filter.mp member
  cases of_decide_eq_true enters
  exact member

theorem mem_walk_of_advance? {count : Nat} (member : cursor ∈ tree.walk)
    (reached : tree.advance? cursor count = some next) : next ∈ tree.walk := by
  obtain ⟨before, here⟩ := List.mem_iff_getElem?.mp member
  rw [getElem?_walk] at here
  obtain ⟨first, start, here⟩ := Option.bind_eq_some_iff.mp here
  refine List.mem_of_getElem? (i := before + count) ?_
  rw [getElem?_walk, start, Option.bind_some, advance?_add, here, Option.bind_some, reached]

theorem advance?_back {child : Nat} (inner : node ≠ 0)
    (first : tree.firstChild? node = some child) :
    tree.advance? (.enter node)
        (1 + (tree.skipOffset child + tree.widthOf (tree.laterSiblings child))) =
      some (.back node) := by
  rw [advance?_add, advance?_one, step?_enter first, Option.bind_some, advance?_pastRow,
    rise?_of_parent? (parent?_firstChild? first) inner]

theorem mem_walk_iff : cursor ∈ tree.walk ↔ tree.Fits cursor := by
  constructor
  · exact fits_of_mem_walk
  · intro fits
    have entered := enter_mem_walk fits.inside
    obtain ⟨node, phase⟩ := cursor
    cases phase with
    | enter => exact entered
    | back =>
      obtain ⟨child, first⟩ := Option.isSome_iff_exists.mp (fits.branches rfl)
      exact mem_walk_of_advance? entered (advance?_back (Nat.ne_of_gt fits.inside.1) first)

theorem mem_walk_above (member : cursor ∈ tree.walk) (below : node ∈ tree.ancestors cursor.node) :
    .enter node ∈ tree.walk ∧ .back node ∈ tree.walk := by
  have inside : 0 < node ∧ node ≤ tree.size := by
    have above := lt_of_mem_ancestors below
    have known := (fits_of_mem_walk member).inside.2
    exact ⟨Nat.pos_of_ne_zero (ne_zero_of_mem_ancestors below), by omega⟩
  obtain ⟨child, hangs, _⟩ := exists_child_above below
  exact ⟨enter_mem_walk inside, mem_walk_iff.mpr ⟨inside, fun _ => hasChildren_of_parent? hangs⟩⟩

/-- Cursors of the walk stand in it in the order of what is left at them. -/
theorem sublist_walk {cursors : List Cursor} (members : ∀ cursor ∈ cursors, cursor ∈ tree.walk)
    (ordered : cursors.Pairwise tree.Precedes) : cursors.Sublist tree.walk :=
  List.sublist_of_subperm_of_pairwise
    (List.subperm_of_subset (nodup_of_precedes ordered) members) ordered tree.pairwise_walk

def branching (tree : Tree α) : List Nat := (List.range' 1 tree.size).filter tree.hasChildren

theorem walk_perm (tree : Tree α) :
    tree.walk.Perm
      ((List.range' 1 tree.size).map Cursor.enter ++ tree.branching.map Cursor.back) := by
  have entering : Function.Injective Cursor.enter := fun _ _ same => congrArg Cursor.node same
  have returning : Function.Injective Cursor.back := fun _ _ same => congrArg Cursor.node same
  have distinct : ((List.range' 1 tree.size).map Cursor.enter ++
      tree.branching.map Cursor.back).Nodup := by
    refine List.nodup_append.mpr ⟨List.Nodup.map entering List.nodup_range',
      List.Nodup.map returning (List.Nodup.filter _ List.nodup_range'), ?_⟩
    intro first inFirst second inSecond same
    obtain ⟨node, _, rfl⟩ := List.mem_map.mp inFirst
    obtain ⟨other, _, rfl⟩ := List.mem_map.mp inSecond
    cases same
  have once : tree.walk.Nodup := nodup_of_precedes tree.pairwise_walk
  refine (List.perm_ext_iff_of_nodup once distinct).mpr fun cursor => ?_
  have within : ∀ node, node ∈ List.range' 1 tree.size ↔ 0 < node ∧ node ≤ tree.size := by
    intro node
    rw [List.mem_range'_1]
    omega
  rw [mem_walk_iff, List.mem_append, List.mem_map, List.mem_map]
  constructor
  · intro fits
    obtain ⟨node, phase⟩ := cursor
    cases phase with
    | enter => exact .inl ⟨node, (within node).mpr fits.inside, rfl⟩
    | back =>
      exact .inr ⟨node, List.mem_filter.mpr ⟨(within node).mpr fits.inside, fits.branches rfl⟩, rfl⟩
  · rintro (⟨node, listed, rfl⟩ | ⟨node, listed, rfl⟩)
    · exact ⟨(within node).mp listed, fun back => nomatch back⟩
    · obtain ⟨listed, branches⟩ := List.mem_filter.mp listed
      exact ⟨(within node).mp listed, fun _ => branches⟩

theorem precedes_below (below : node ∈ tree.ancestors cursor.node) :
    tree.Precedes (.enter node) cursor ∧ tree.Precedes cursor (.back node) := by
  have stretch := stretch_below below
  have bounds := tree.remaining_bounds cursor
  rw [Precedes, Precedes, remaining_enter, remaining_back]
  omega

theorem precedes_siblings {elder younger : Nat} (later : younger ∈ tree.laterSiblings elder)
    (first : tree.Holds elder cursor.node) (second : tree.Holds younger next.node) :
    tree.Precedes cursor next := by
  have apart := stretch_sibling later
  have elderStretch := stretch_holds first
  have youngerStretch := stretch_holds second
  have elderBounds := tree.remaining_bounds cursor
  have youngerBounds := tree.remaining_bounds next
  rw [Precedes]
  omega

theorem mem_laterSiblings_of_sublist {start : Option Nat} {elder younger : Nat}
    (order : [elder, younger].Sublist (tree.siblingsFrom start)) :
    younger ∈ tree.laterSiblings elder := by
  fun_induction siblingsFrom tree start with
  | case1 => cases order
  | case2 node ih =>
    cases order with
    | cons _ rest => exact ih rest
    | cons_cons _ rest => exact List.singleton_sublist.mp rest

theorem next?_eq (tree : Tree α) (node : Nat) :
    tree.next? node = (tree.leave? node).map Cursor.node := by
  cases next : tree.nextSibling? node with
  | some sibling =>
    rw [leave?_of_nextSibling? next, next?, next]
    rfl
  | none =>
    rw [leave?_of_last next, next?, next, rise?]
    cases tree.parent? node with
    | none => rfl
    | some parent => by_cases top : parent = 0 <;> simp [top, Cursor.back]

theorem stepsAfter_next? {other : Nat} (goes : tree.next? node = some other) :
    tree.stepsAfter other < tree.stepsAfter node := by
  rw [next?_eq] at goes
  obtain ⟨cursor, left, rfl⟩ := Option.map_eq_some_iff.mp goes
  rw [remaining_leave? left]
  exact (tree.remaining_bounds cursor).1

def onward? (tree : Tree α) (node : Nat) : Nat → Option Nat
  | 0 => some node
  | times + 1 => (tree.next? node).bind (tree.onward? · times)

theorem onward?_add (tree : Tree α) (node first second : Nat) :
    tree.onward? node (first + second) =
      (tree.onward? node first).bind (tree.onward? · second) := by
  induction first generalizing node with
  | zero => rw [Nat.zero_add, onward?, Option.bind_some]
  | succ first ih =>
    rw [Nat.add_right_comm, onward?, onward?, Option.bind_assoc]
    congr 1
    funext next
    exact ih next

theorem stepsAfter_onward? {other times : Nat}
    (goes : tree.onward? node (times + 1) = some other) :
    tree.stepsAfter other < tree.stepsAfter node := by
  induction times generalizing node with
  | zero =>
    obtain ⟨_, goes, ⟨⟩⟩ := Option.bind_eq_some_iff.mp goes
    exact stepsAfter_next? goes
  | succ times ih =>
    obtain ⟨next, first, further⟩ := Option.bind_eq_some_iff.mp goes
    exact Nat.lt_trans (ih further) (stepsAfter_next? first)

theorem onward?_inj {first second other : Nat} (one : tree.onward? node first = some other)
    (again : tree.onward? node second = some other) : first = second := by
  have never : ∀ early late, early < late → tree.onward? node early = some other →
      tree.onward? node late ≠ some other := by
    intro early late later before after
    obtain ⟨times, rfl⟩ : ∃ times, late = early + (times + 1) := ⟨late - early - 1, by omega⟩
    rw [onward?_add, before, Option.bind_some] at after
    exact Nat.lt_irrefl _ (stepsAfter_onward? after)
  by_contra apart
  rcases Nat.lt_or_gt_of_ne apart with before | after
  · exact never first second before one again
  · exact never second first after again one

theorem onward?_inside {other times : Nat} (inside : 0 < node ∧ node ≤ tree.size)
    (goes : tree.onward? node times = some other) : 0 < other ∧ other ≤ tree.size := by
  induction times generalizing node with
  | zero =>
    cases goes
    exact inside
  | succ times ih =>
    obtain ⟨next, first, further⟩ := Option.bind_eq_some_iff.mp goes
    rw [next?_eq] at first
    obtain ⟨cursor, left, rfl⟩ := Option.map_eq_some_iff.mp first
    exact ih (inside_of_leave? left) further

theorem onward?_before {other early times : Nat} (goes : tree.onward? node times = some other)
    (before : early ≤ times) : ∃ between, tree.onward? node early = some between := by
  obtain ⟨rest, rfl⟩ := Nat.exists_eq_add_of_le before
  rw [onward?_add] at goes
  obtain ⟨between, reached, _⟩ := Option.bind_eq_some_iff.mp goes
  exact ⟨between, reached⟩

/-- As the nodes met are all different, there are no more of them than nodes in the tree. -/
theorem times_lt_size {other times : Nat} (inside : 0 < node ∧ node ≤ tree.size)
    (goes : tree.onward? node times = some other) : times < tree.size := by
  have before : ∀ early : Fin (times + 1), early ≤ times := fun early => Nat.le_of_lt_succ early.2
  choose met reached using fun early : Fin (times + 1) => onward?_before goes (before early)
  have distinct : Function.Injective met := by
    intro first second same
    have again := reached second
    rw [← same] at again
    exact Fin.ext (onward?_inj (reached first) again)
  have known : ∀ early, met early ∈ Finset.Icc 1 tree.size := fun early =>
    Finset.mem_Icc.mpr (onward?_inside inside (reached early))
  have fits : (Finset.univ : Finset (Fin (times + 1))).card ≤ (Finset.Icc 1 tree.size).card :=
    Finset.card_le_card_of_injOn met (fun early _ => known early) distinct.injOn
  rwa [Finset.card_univ, Fintype.card_fin, Nat.card_Icc, Nat.add_sub_cancel] at fits

theorem onward?_ends (known : node ≤ tree.size) : tree.onward? node (max 1 tree.size) = none := by
  rcases Nat.eq_zero_or_pos node with rfl | positive
  · obtain ⟨times, more⟩ : ∃ times, max 1 tree.size = times + 1 := ⟨max 1 tree.size - 1, by omega⟩
    have alone : tree.next? 0 = none := by
      rw [next?_eq, leave?_root]
      rfl
    rw [more, onward?, alone, Option.bind_none]
  · cases goes : tree.onward? node (max 1 tree.size) with
    | none => rfl
    | some other =>
      have short := times_lt_size ⟨positive, known⟩ goes
      omega

/--
The walk over a tree goes through all of it, in order, and the lists of children and the links that
it follows are those of the additions that made the tree.
-/
theorem built_tree_walked_through {parents : List Nat} {tree : Tree α}
    (built : Built parents tree) :
    (tree.size = parents.length ∧
      ∀ node, tree.children node = addedUnder parents node ∧ tree.Family node) ∧
    (∀ count, tree.walk[count]? = tree.start?.bind (tree.advance? · count)) ∧
    tree.walk.Perm
      ((List.range' 1 tree.size).map Cursor.enter ++ tree.branching.map Cursor.back) ∧
    (tree.walk.length = tree.size + tree.branching.length ∧ tree.walk.length ≤ 2 * tree.size) ∧
    (∀ cursor ∈ tree.walk, ∀ node ∈ tree.ancestors cursor.node,
      [.enter node, cursor, .back node].Sublist tree.walk) ∧
    (∀ node elder younger, [elder, younger].Sublist (tree.children node) →
      ∀ first ∈ tree.walk, tree.Holds elder first.node →
        ∀ second ∈ tree.walk, tree.Holds younger second.node →
          [first, second].Sublist tree.walk) ∧
    ∀ node ≤ tree.size,
      (∀ first second other, tree.onward? node first = some other →
        tree.onward? node second = some other → first = second) ∧
      tree.onward? node (max 1 tree.size) = none := by
  have width := tree.walk_perm.length_eq
  rw [List.length_append, List.length_map, List.length_map, List.length_range'] at width
  have branches : tree.branching.length ≤ tree.size := by
    have fewer := List.length_filter_le tree.hasChildren (List.range' 1 tree.size)
    rwa [List.length_range'] at fewer
  refine ⟨⟨built.size_eq, fun node => ⟨built.children_eq node, tree.family node⟩⟩,
    tree.getElem?_walk, tree.walk_perm, ⟨width, by omega⟩, ?_, ?_, ?_⟩
  · intro cursor member node below
    obtain ⟨enters, returns⟩ := mem_walk_above member below
    obtain ⟨before, after⟩ := precedes_below below
    have around : tree.Precedes (.enter node) (.back node) := Nat.lt_trans after before
    refine sublist_walk (by simp [enters, member, returns]) ?_
    simp [before, after, around]
  · intro node elder younger order first inFirst underFirst second inSecond underSecond
    have later := mem_laterSiblings_of_sublist order
    refine sublist_walk (by simp [inFirst, inSecond]) ?_
    simpa using precedes_siblings later underFirst underSecond
  · intro node known
    exact ⟨fun first second other => onward?_inj, onward?_ends known⟩

theorem bush_walked_through :
    Built [0, 0, 1, 2, 1, 3] bush ∧ bush.children 1 = [3, 5] ∧ bush.walk.length = 9 ∧
      [.enter 1, .back 3, .back 1].Sublist bush.walk ∧ [.back 3, .enter 5].Sublist bush.walk ∧
      bush.onward? 6 6 = none := by
  have built : Built [0, 0, 1, 2, 1, 3] bush :=
    .add (.add (.add (.add (.add (.add .empty 0 () _) 0 () _) 1 () _) 2 () _) 1 () _) 3 () _
  obtain ⟨⟨_, families⟩, _, visits, ⟨width, _⟩, nests, orders, onward⟩ :=
    built_tree_walked_through built
  have three : bush.branching.length = 3 := rfl
  have back : .back 3 ∈ bush.walk :=
    visits.mem_iff.mpr (List.mem_append_right _ (List.mem_map_of_mem (by decide)))
  have enter : .enter 5 ∈ bush.walk :=
    visits.mem_iff.mpr (List.mem_append_left _ (List.mem_map_of_mem (by decide)))
  have under : 1 ∈ bush.ancestors 3 := by decide +kernel
  have elder : [3, 5].Sublist (bush.children 1) := by decide +kernel
  refine ⟨built, (families 1).1, ?_, nests (.back 3) back 1 under, ?_, (onward 6 (by decide)).2⟩
  · rw [width, three]
    rfl
  · exact orders 1 3 5 elder (.back 3) back (.inl rfl) (.enter 5) enter (.inl rfl)

end TileScript.Tree
