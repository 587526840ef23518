import TileScript.Proofs.Script.Grammar

namespace TileScript

namespace Forest

def lines (forest : Forest Command) (depth : Nat) : List ScriptEntry :=
  (forest.outline depth).map (fun line => ⟨line.1, line.2⟩)

def startsElse : Forest Command → Bool
  | nil => false
  | cons command _ _ => command.isElse

def linked : Forest Command → Forest Command
  | nil => nil
  | cons command children rest =>
    cons (command.followedByElse rest.startsElse) children.linked rest.linked

def Welcome (scope : Scope) (inMenu inLoop afterIf : Bool) : Forest Command → Prop
  | nil => True
  | cons command children rest =>
    TileScript.Welcome scope inMenu inLoop afterIf command ∧
      children.Welcome scope command.isMenu (inLoop || command.isLoop) false ∧
      rest.Welcome scope inMenu inLoop command.isIf

def FullMenus (forest : Forest Command) : Prop :=
  forest.Every (fun command children => ∀ choices cancel,
    command = .displayChoice choices cancel → children.breadth = choices.length)

theorem lines_cons (command : Command) (children rest : Forest Command) (depth : Nat) :
    (cons command children rest).lines depth =
      ⟨depth, command⟩ :: (children.lines (depth + 1) ++ rest.lines depth) := by
  simp [lines, outline]

end Forest

namespace Tree

variable {α : Type}

theorem lastChild?_of_last {tree : Tree α} {parent child : Nat}
    (hangs : tree.parent? child = some parent)
    (last : ∀ later, child < later → tree.parent? later ≠ some parent) :
    tree.lastChild? parent = some child := by
  have below := parent?_lt hangs
  have known := le_size_of_parent? hangs
  have split : List.range' 1 tree.size =
      List.range' 1 (child - 1) ++ child :: List.range' (child + 1) (tree.size - child) := by
    have tail : child :: List.range' (child + 1) (tree.size - child) =
        List.range' (1 + (child - 1)) (tree.size - child + 1) := by
      rw [List.range'_succ, show 1 + (child - 1) = child by omega]
    rw [tail, List.range'_append_1]
    congr 1
    omega
  have after : (List.range' (child + 1) (tree.size - child)).filter
      (fun other => tree.parent? other == some parent) = [] := by
    refine List.filter_eq_nil_iff.mpr fun later member => ?_
    have beyond := List.mem_range'_1.mp member
    simpa using last later (by omega)
  rw [lastChild?_eq_getLast?, children_eq_filter, split, List.filter_append, List.filter_cons_of_pos (by simp [hangs]),
    after, List.getLast?_append_cons, List.getLast?_singleton]

end Tree

namespace Draft

/-- What the checks know of a place where the next line may come: the nodes left open around it are
`around`, the innermost first. -/
structure Standing (draft : Draft) (around : List Nat) (inMenu inLoop afterIf : Bool) : Prop where
  settled : draft.Settled
  opened : around <:+ draft.openNodes
  inside : ∀ node ∈ around, node ≠ 0
  menu : carries draft.tree Command.isMenu (parentOf around) = inMenu
  loop : around.any (carries draft.tree Command.isLoop) = inLoop
  conditional : ((draft.tree.lastChild? (parentOf around)).map
    (carries draft.tree Command.isIf)).getD false = afterIf

namespace Standing

variable {scope : Scope} {draft next : Draft} {around : List Nat} {inMenu inLoop afterIf : Bool}

theorem start : Standing empty [] false false false where
  settled := settled_empty
  opened := List.nil_suffix
  inside := fun _ member => nomatch member
  menu := rfl
  loop := rfl
  conditional := rfl

theorem known (stands : Standing draft around inMenu inLoop afterIf) :
    ∀ node ∈ around, node ≤ draft.tree.size := by
  intro node member
  rcases List.mem_cons.mp (stands.opened.subset member) with rfl | above
  · exact Nat.le_refl _
  · exact draft.known node above

theorem chain_eq (stands : Standing draft around inMenu inLoop afterIf) {command : Command}
    {rest : List ScriptEntry} (step : Step scope draft next ⟨around.length, command⟩ rest) :
    next.chain = around :=
  (List.suffix_of_suffix_length_le step.closes stands.opened
    (Nat.le_of_eq step.level)).eq_of_length step.level

theorem misplaced?_iff (stands : Standing draft around inMenu inLoop afterIf)
    (command : Command) :
    misplaced? scope draft.tree around command = none ↔
      Welcome scope inMenu inLoop afterIf command := by
  rw [misplaced?_eq_none_iff, stands.menu, stands.loop, stands.conditional]

theorem place (stands : Standing draft around inMenu inLoop afterIf) {command : Command}
    (welcome : Welcome scope inMenu inLoop afterIf command) (rest : List ScriptEntry) :
    ∃ next, draft.place scope ⟨around.length, command⟩ rest = .ok next := by
  have fits : ∃ found, draft.around around.length = .ok found := by
    rw [around_isOk]
    have shorter := stands.opened.length_le
    rw [openNodes, List.length_cons] at shorter
    rcases Nat.lt_or_eq_of_le shorter with within | whole
    · exact .inl (by omega)
    · have all := stands.opened.eq_of_length whole
      refine .inr ⟨whole, stands.inside _ ?_⟩
      rw [all]
      exact List.mem_cons_self
  obtain ⟨found, fits⟩ := fits
  obtain ⟨closes, level, _⟩ := around_ok fits
  have same : found.1 = around :=
    (List.suffix_of_suffix_length_le closes stands.opened (Nat.le_of_eq level)).eq_of_length level
  have fine : misplaced? scope draft.tree found.1 command = none := by
    rw [same, stands.misplaced?_iff]
    exact welcome
  simp [Draft.place, fits, fine]

theorem carries_step {entry : ScriptEntry} {rest : List ScriptEntry}
    (step : Step scope draft next entry rest) {test : Command → Bool}
    (blind : ∀ follows command, test (Command.followedByElse follows command) = test command) :
    carries next.tree test next.tree.size = test entry.command := by
  simp [carries, step.item, blind]

theorem loop_extends (stands : Standing draft around inMenu inLoop afterIf)
    (grown : draft.tree.Extends next.tree) :
    around.any (carries next.tree Command.isLoop) = inLoop := by
  rw [← stands.loop, Bool.eq_iff_iff, List.any_eq_true, List.any_eq_true]
  refine exists_congr fun node => and_congr_right fun member => ?_
  rw [carries_extends grown (stands.known node member)]

/-- Under the line just placed. -/
theorem under {command : Command} {rest : List ScriptEntry}
    (stands : Standing draft around inMenu inLoop afterIf)
    (step : Step scope draft next ⟨around.length, command⟩ rest) :
    Standing next (next.tree.size :: around) command.isMenu (inLoop || command.isLoop) false where
  settled := step.settled stands.settled
  opened := by
    have nodes : next.openNodes = next.tree.size :: around := by
      rw [openNodes, stands.chain_eq step]
    exact nodes ▸ List.suffix_refl _
  inside := by
    intro node member
    rcases List.mem_cons.mp member with rfl | above
    · have grown := step.size
      omega
    · exact stands.inside node above
  menu := carries_step step (fun follows command => by cases command <;> rfl)
  loop := by
    have here : carries next.tree Command.isLoop next.tree.size = command.isLoop :=
      carries_step step (fun follows command => by cases command <;> rfl)
    rw [List.any_cons, here, stands.loop_extends step.grows, Bool.or_comm]
  conditional := by
    have childless : next.tree.lastChild? next.tree.size = none := by
      rw [Tree.lastChild?_eq_getLast?, List.getLast?_eq_none_iff]
      refine List.eq_nil_iff_forall_not_mem.mpr fun child member => ?_
      have hangs := Tree.mem_children.mp member
      have later := Tree.parent?_lt hangs
      have known := Tree.le_size_of_parent? hangs
      omega
    show (Option.map _ (next.tree.lastChild? next.tree.size)).getD false = false
    rw [childless]
    rfl

/-- Beside the line just placed, once all that hangs under it has been placed. -/
theorem beside {command : Command} {rest : List ScriptEntry} {last : Draft}
    {menu loop conditional : Bool} (stands : Standing draft around inMenu inLoop afterIf)
    (step : Step scope draft next ⟨around.length, command⟩ rest)
    (inner : Standing last (next.tree.size :: around) menu loop conditional)
    (grown : next.tree.Extends last.tree)
    (within : ∀ node parent, next.tree.size < node → last.tree.parent? node = some parent →
      next.tree.size ≤ parent) :
    Standing last around inMenu inLoop command.isIf where
  settled := inner.settled
  opened := (List.suffix_cons _ _).trans inner.opened
  inside := stands.inside
  menu := by
    rw [carries_extends (step.grows.trans grown) (parentOf_le stands.known), stands.menu]
  loop := stands.loop_extends (step.grows.trans grown)
  conditional := by
    have hangs : last.tree.parent? next.tree.size = some (parentOf around) := by
      rw [grown.parent?_eq (Nat.le_refl _), step.hangs, stands.chain_eq step]
    have youngest : last.tree.lastChild? (parentOf around) = some next.tree.size := by
      refine Tree.lastChild?_of_last hangs fun later beyond same => ?_
      have deeper := within later _ beyond same
      have outer := Tree.parent?_lt hangs
      omega
    have here : carries next.tree Command.isIf next.tree.size = command.isIf :=
      carries_step step (fun follows command => by cases command <;> rfl)
    rw [youngest, Option.map_some, Option.getD_some, carries_extends grown (Nat.le_refl _), here]

/-- The lines of a forest are taken up one after the other, all of them under the node they start
under. -/
theorem takes (stands : Standing draft around inMenu inLoop afterIf) {forest : Forest Command}
    (welcome : forest.Welcome scope inMenu inLoop afterIf) (index : Nat)
    (tail : List ScriptEntry) :
    ∃ last later afterwards,
      placeAll scope draft index (forest.lines around.length ++ tail) =
        placeAll scope last later tail ∧
      Standing last around inMenu inLoop afterwards ∧ draft.tree.Extends last.tree ∧
      ∀ node parent, draft.tree.size < node → last.tree.parent? node = some parent →
        parentOf around ≤ parent := by
  induction forest generalizing draft around inMenu inLoop afterIf index tail with
  | nil =>
    refine ⟨draft, index, afterIf, rfl, stands, .refl _, fun node parent beyond hangs => ?_⟩
    have known := Tree.le_size_of_parent? hangs
    omega
  | cons command children rest children_ih rest_ih =>
    obtain ⟨here, inside, following⟩ := welcome
    obtain ⟨next, placed⟩ := stands.place here
      (children.lines (around.length + 1) ++ (rest.lines around.length ++ tail))
    have step := place_ok stands.settled placed
    obtain ⟨inner, position, _, taken, settled, deeper, within⟩ :=
      children_ih (stands.under step) inside (index + 1) (rest.lines around.length ++ tail)
    obtain ⟨last, later, afterwards, remaining, stood, wider, beside⟩ :=
      rest_ih (stands.beside step settled deeper within) following position tail
    refine ⟨last, later, afterwards, ?_, stood, (step.grows.trans deeper).trans wider, ?_⟩
    · rw [Forest.lines_cons, List.cons_append, List.append_assoc, placeAll, placed, ← remaining,
        ← taken]
      rfl
    · -- What the children added hangs below the new node, and so below `around` as well.
      intro node parent beyond hangs
      have grown := step.size
      have hung : next.tree.parent? next.tree.size = some (parentOf around) :=
        stands.chain_eq step ▸ step.hangs
      have above := Tree.parent?_lt hung
      by_cases early : node ≤ inner.tree.size
      · rw [wider.parent?_eq early] at hangs
        by_cases now : node = next.tree.size
        · rw [now, deeper.parent?_eq (Nat.le_refl _), hung] at hangs
          exact Nat.le_of_eq (Option.some.inj hangs)
        · have lower : next.tree.size ≤ parent := within node parent (by omega) hangs
          omega
      · exact beside node parent (by omega) hangs

theorem welcome_of_placeAll (stands : Standing draft around inMenu inLoop afterIf)
    {forest : Forest Command} {index : Nat} {tail : List ScriptEntry} {final : Draft}
    (placed : placeAll scope draft index (forest.lines around.length ++ tail) = .ok final) :
    forest.Welcome scope inMenu inLoop afterIf := by
  induction forest generalizing draft around inMenu inLoop afterIf index tail with
  | nil => trivial
  | cons command children rest children_ih rest_ih =>
    rw [Forest.lines_cons, List.cons_append, List.append_assoc] at placed
    obtain ⟨next, first, later⟩ := placeAll_cons placed
    have step := place_ok stands.settled first
    have here : Welcome scope inMenu inLoop afterIf command := by
      rw [← stands.misplaced?_iff, ← stands.chain_eq step]
      exact step.welcome
    have inside := children_ih (stands.under step) later
    obtain ⟨inner, position, _, taken, settled, deeper, within⟩ :=
      (stands.under step).takes inside (index + 1) (rest.lines around.length ++ tail)
    have onward : placeAll scope inner position (rest.lines around.length ++ tail) = .ok final :=
      taken.symm.trans later
    exact ⟨here, inside, rest_ih (stands.beside step settled deeper within) onward⟩

end Standing

end Draft

def Lines.command? (entries : List ScriptEntry) : Nat → Option Command
  | 0 => none
  | index + 1 => entries[index]?.map (·.command)

theorem records_of_placeAll {scope : Scope} {entries : List ScriptEntry} {final : Draft}
    (placed : Draft.placeAll scope .empty 0 entries = .ok final) :
    Draft.Records entries final ∧ final.tree.size = entries.length := by
  have verdict := Draft.placeAll_verdict scope (Draft.records_empty entries) rfl
  rw [show Draft.empty.tree.size = 0 from rfl, List.drop_zero, placed] at verdict
  rcases verdict with ⟨_, ⟨⟩, records, whole, _⟩ | ⟨_, _, _, failed, _⟩
  · exact ⟨records, whole⟩
  · cases failed

theorem item?_of_placeAll {scope : Scope} {entries : List ScriptEntry} {final : Draft}
    (placed : Draft.placeAll scope .empty 0 entries = .ok final) {node : Nat} {command : Command}
    (line : Lines.command? entries node = some command) :
    final.tree.item? node = some (command.followedByElse
      ((final.tree.nextSibling? node).any (Draft.carries final.tree Command.isElse))) := by
  obtain ⟨records, whole⟩ := records_of_placeAll placed
  cases node with
  | zero => cases line
  | succ index =>
    obtain ⟨entry, found, rfl⟩ := Option.map_eq_some_iff.mp line
    have within : index < final.tree.size := by
      rw [whole]
      exact (List.getElem?_eq_some_iff.mp found).1
    obtain ⟨other, same, _, item⟩ := records.line index within
    cases found.symm.trans same
    have knowsElse := (wellPlaced_of_placeAll placed (index + 1)).knowsElse
    cases shape : entry.command with
    | ifThen condition flag =>
      rw [shape] at item
      rw [item, ← knowsElse condition _ item]
    | _ =>
      rw [item, shape]
      rfl

theorem map_command?_of_placeAll {scope : Scope} {forest : Forest Command} {final : Draft}
    (placed : Draft.placeAll scope .empty 0 (forest.lines 0) = .ok final) :
    final.tree.forest.map (Lines.command? (forest.lines 0)) = forest.map some := by
  obtain ⟨records, whole⟩ := records_of_placeAll placed
  -- A forest is told by its lines, and line and node have the same depth.
  refine Forest.outline_injective 0 ?_
  rw [Forest.outline_map, Forest.outline_map, Tree.outline_forest,
    records.inOrder.preorder_eq_range', whole, List.map_map]
  refine List.ext_getElem (by simp [Forest.lines]) fun index within bound => ?_
  have inside : index < final.tree.size := by
    rw [whole]
    simpa using within
  rw [List.length_map] at bound
  have line : (forest.lines 0)[index]? =
      some ⟨(forest.outline 0)[index].1, (forest.outline 0)[index].2⟩ := by
    simp [Forest.lines, bound]
  obtain ⟨entry, found, depth, _⟩ := records.line index inside
  cases line.symm.trans found
  simp [Lines.command?, Nat.add_comm 1 index, depth, line]

theorem map_item?_forestFrom {tree : Tree Command} {plain : Nat → Option Command}
    (items : ∀ node command, plain node = some command → tree.item? node =
      some (command.followedByElse
        ((tree.nextSibling? node).any (Draft.carries tree Command.isElse))))
    {start : Option Nat} {forest : Forest Command}
    (same : (tree.forestFrom start).map plain = forest.map some) :
    (tree.forestFrom start).map tree.item? = forest.linked.map some := by
  fun_induction Tree.forestFrom tree start generalizing forest with
  | case1 =>
    cases forest with
    | nil => rfl
    | cons => cases same
  | case2 node children_ih rest_ih =>
    cases forest with
    | nil => cases same
    | cons command children rest =>
      simp only [Forest.map, Forest.cons.injEq] at same
      obtain ⟨here, inside, beside⟩ := same
      have follows : (tree.nextSibling? node).any (Draft.carries tree Command.isElse) =
          rest.startsElse := by
        cases next : tree.nextSibling? node with
        | none =>
          rw [next, Tree.forestFrom_none] at beside
          cases rest with
          | nil => rfl
          | cons => cases beside
        | some sibling =>
          rw [next, Tree.forestFrom_some] at beside
          cases rest with
          | nil => cases beside
          | cons other _ _ =>
            have item := items sibling other (Forest.cons.inj beside).1
            simp [Draft.carries, item, Draft.isElse_followedByElse, Forest.startsElse]
      rw [Forest.map, Forest.linked, Forest.map, items node command here, follows,
        children_ih inside, rest_ih beside]

theorem fullMenus_iff {tree : Tree Command} {entries : List ScriptEntry} {forest : Forest Command}
    (whole : tree.size = entries.length)
    (same : tree.forest.map (Lines.command? entries) = forest.map some) :
    forest.FullMenus ↔ branchMismatch? tree entries = none := by
  have counted : forest.FullMenus ↔ ∀ node ∈ tree.forest.items, ∀ choices cancel,
      Lines.command? entries node = some (.displayChoice choices cancel) →
        (tree.children node).length = choices.length := by
    have some_iff : forest.FullMenus ↔ (forest.map some).Every (fun command children =>
        ∀ choices cancel, command = some (.displayChoice choices cancel) →
          children.breadth = choices.length) := by
      simp only [Forest.FullMenus, Forest.every_map_iff, Forest.breadth_map, Option.some.injEq]
    rw [some_iff, ← same, Forest.every_map_iff, Tree.forest, Tree.every_forestFrom_iff]
    simp only [Forest.breadth_map, Tree.breadth_firstChild?]
  rw [counted, branchMismatch?_eq_none_iff]
  constructor
  · intro full index entry here choices cancel menu
    have within : index < tree.size := by
      rw [whole]
      exact (List.getElem?_eq_some_iff.mp here).1
    have listed : index + 1 ∈ tree.forest.items := by
      rw [← Tree.preorder_eq_items, Tree.mem_preorder_iff]
      exact ⟨Nat.succ_pos index, within⟩
    exact full (index + 1) listed choices cancel (by simp [Lines.command?, here, menu])
  · intro full node _ choices cancel menu
    cases node with
    | zero => cases menu
    | succ index =>
      obtain ⟨entry, here, command⟩ := Option.map_eq_some_iff.mp menu
      exact full index entry here choices cancel command

/--
The tree of a script that compiles has a node per line, in pre-order and at the depth of its indent.
The script of a forest compiles exactly if its commands are where they may be and its menus are
full, and then to this forest, with its conditionals linked to their else branches.
-/
theorem compileScript_roundTrip (scope : Scope) :
    (∀ entries tree, compileScript scope entries = .ok tree →
      tree.size = entries.length ∧ tree.preorder = List.range' 1 entries.length ∧
        ∀ index entry, entries[index]? = some entry →
          tree.depth (index + 1) = entry.indent ∧
          tree.item? (index + 1) = some (entry.command.followedByElse
            ((tree.nextSibling? (index + 1)).any (Draft.carries tree Command.isElse)))) ∧
    ∀ forest : Forest Command,
      ((∃ tree, compileScript scope (forest.lines 0) = .ok tree) ↔
        forest.Welcome scope false false false ∧ forest.FullMenus) ∧
      ∀ tree, compileScript scope (forest.lines 0) = .ok tree →
        tree.forest.map tree.item? = forest.linked.map some := by
  refine ⟨fun entries tree compiled => ?_, fun forest => ⟨⟨?_, ?_⟩, fun tree compiled => ?_⟩⟩
  · obtain ⟨final, placed, rfl, _⟩ := compileScript_ok compiled
    obtain ⟨records, whole⟩ := records_of_placeAll placed
    refine ⟨whole, whole ▸ records.inOrder.preorder_eq_range', fun index entry here => ?_⟩
    have within : index < final.tree.size := by
      rw [whole]
      exact (List.getElem?_eq_some_iff.mp here).1
    obtain ⟨other, same, depth, _⟩ := records.line index within
    cases here.symm.trans same
    exact ⟨depth, item?_of_placeAll placed (by simp [Lines.command?, here])⟩
  · rintro ⟨tree, compiled⟩
    obtain ⟨final, placed, rfl, counted⟩ := compileScript_ok compiled
    obtain ⟨_, whole⟩ := records_of_placeAll placed
    have full := (fullMenus_iff whole (map_command?_of_placeAll placed)).mpr counted
    rw [← List.append_nil (forest.lines 0)] at placed
    exact ⟨Draft.Standing.start.welcome_of_placeAll placed, full⟩
  · rintro ⟨welcome, full⟩
    obtain ⟨final, _, _, taken, _⟩ := Draft.Standing.start.takes welcome 0 []
    rw [List.append_nil] at taken
    have placed : Draft.placeAll scope .empty 0 (forest.lines 0) = .ok final := taken
    obtain ⟨_, whole⟩ := records_of_placeAll placed
    have counted := (fullMenus_iff whole (map_command?_of_placeAll placed)).mp full
    exact ⟨final.tree, by simp only [compileScript, placed, counted]⟩
  · obtain ⟨final, placed, rfl, _⟩ := compileScript_ok compiled
    exact map_item?_forestFrom (fun _ _ line => item?_of_placeAll placed line)
      (map_command?_of_placeAll placed)

/-- A menu of two branches. -/
theorem menu_compiles :
    ∃ tree, compileScript ⟨[], []⟩ [⟨0, .displayChoice ["stay", "leave"] (some 0)⟩, ⟨1, .choice⟩,
        ⟨1, .choice⟩, ⟨2, .stopReaction⟩] = .ok tree ∧
      tree.forest.map tree.item? =
        .cons (some (.displayChoice ["stay", "leave"] (some 0)))
          (.cons (some .choice) .nil
            (.cons (some .choice) (.cons (some .stopReaction) .nil .nil) .nil))
          .nil := by
  have branch : ∀ afterIf, Welcome ⟨[], []⟩ true false afterIf .choice := by
    intro afterIf
    constructor <;> simp
  have compiles := (compileScript_roundTrip ⟨[], []⟩).2
    (.cons (.displayChoice ["stay", "leave"] (some 0))
      (.cons .choice .nil (.cons .choice (.cons .stopReaction .nil .nil) .nil)) .nil)
  have welcome : Forest.Welcome ⟨[], []⟩ false false false
      (.cons (.displayChoice ["stay", "leave"] (some 0))
        (.cons .choice .nil (.cons .choice (.cons .stopReaction .nil .nil) .nil)) .nil) :=
    ⟨by constructor <;> simp, ⟨branch _, trivial, branch _,
      ⟨by constructor <;> simp [Command.isMenu], trivial, trivial⟩, trivial⟩, trivial⟩
  have full : Forest.FullMenus (.cons (.displayChoice ["stay", "leave"] (some 0))
      (.cons .choice .nil (.cons .choice (.cons .stopReaction .nil .nil) .nil)) .nil) := by
    refine ⟨?_, ⟨by simp, trivial, by simp, ⟨by simp, trivial, trivial⟩, trivial⟩, trivial⟩
    rintro choices cancel ⟨⟩
    rfl
  obtain ⟨tree, compiled⟩ := compiles.1.mpr ⟨welcome, full⟩
  exact ⟨tree, compiled, compiles.2 tree compiled⟩

end TileScript
