import TileScript.Proofs.Script.WellPlaced
import TileScript.Proofs.Tree.Preorder

namespace TileScript

namespace Tree

variable {α : Type}

theorem depth_lt_of_mem_ancestors {tree : Tree α} {ancestor node : Nat}
    (above : ancestor ∈ tree.ancestors node) : tree.depth ancestor < tree.depth node := by
  induction node using Nat.strongRecOn with
  | ind node ih =>
    obtain ⟨parent, hangs, inner, reached⟩ := mem_ancestors_iff.mp above
    have deeper := depth_of_parent? hangs
    rw [if_neg inner] at deeper
    rcases reached with rfl | higher
    · omega
    · have shallower := ih parent (parent?_lt hangs) higher
      omega

end Tree

def closest? (test : Nat → Bool) : Nat → Option Nat
  | 0 => none
  | index + 1 => if test index then some index else closest? test index

theorem closest?_eq_some {test : Nat → Bool} {index hit : Nat} (before : hit < index)
    (passes : test hit = true)
    (between : ∀ other, hit < other → other < index → test other = false) :
    closest? test index = some hit := by
  induction index with
  | zero => omega
  | succ index ih =>
    rw [closest?]
    rcases Nat.eq_or_lt_of_le (Nat.le_of_lt_succ before) with rfl | earlier
    · rw [if_pos passes]
    · rw [between index earlier (Nat.lt_succ_self index), if_neg Bool.false_ne_true]
      exact ih earlier (fun other after within => between other after (by omega))

theorem closest?_eq_none {test : Nat → Bool} {index : Nat}
    (fails : ∀ other, other < index → test other = false) : closest? test index = none := by
  induction index with
  | zero => rfl
  | succ index ih =>
    rw [closest?, fails index (Nat.lt_succ_self index), if_neg Bool.false_ne_true]
    exact ih (fun other within => fails other (by omega))

theorem closest?_lt {test : Nat → Bool} {index hit : Nat} (found : closest? test index = some hit) :
    hit < index := by
  induction index with
  | zero => cases found
  | succ index ih =>
    rw [closest?] at found
    split at found
    · cases found
      exact Nat.lt_succ_self _
    · exact Nat.lt_succ_of_lt (ih found)

theorem getLast?_filter_range' {test other : Nat → Bool} {count : Nat}
    (agree : ∀ index, index < count → test (index + 1) = other index) :
    ((List.range' 1 count).filter test).getLast? = (closest? other count).map (· + 1) := by
  induction count with
  | zero => rfl
  | succ count ih =>
    have last := agree count (Nat.lt_succ_self count)
    have earlier := ih (fun index within => agree index (by omega))
    rw [List.range'_1_concat, List.filter_append, closest?, Nat.add_comm 1 count]
    cases passes : other count with
    | true => simp [last, passes]
    | false => simp [last, passes, earlier]

namespace Lines

variable (entries : List ScriptEntry)

/-- The line that a line hangs under: the nearest earlier one of indent one less. -/
def parent? (index : Nat) : Option Nat :=
  entries[index]?.bind (fun entry =>
    closest? (fun earlier =>
      (entries[earlier]?).any (fun other => other.indent + 1 == entry.indent)) index)

theorem parent?_lt {entries : List ScriptEntry} {index parent : Nat}
    (hangs : parent? entries index = some parent) : parent < index := by
  obtain ⟨entry, _, found⟩ := Option.bind_eq_some_iff.mp hangs
  exact closest?_lt found

def ancestors (index : Nat) : List Nat :=
  match _hangs : parent? entries index with
  | none => []
  | some parent => parent :: ancestors parent
termination_by index
decreasing_by exact parent?_lt _hangs

def sibling? (index : Nat) : Option Nat :=
  closest? (fun earlier => parent? entries earlier == parent? entries index) index

def children (index : Nat) : List Nat :=
  (List.range entries.length).filter (fun other => parent? entries other == some index)

def carries (test : Command → Bool) (index : Nat) : Bool :=
  (entries[index]?).any (fun entry => test entry.command)

theorem ancestors_eq (index : Nat) :
    ancestors entries index =
      (parent? entries index).elim [] (fun parent => parent :: ancestors entries parent) := by
  rw [ancestors]
  split <;> simp [*]

def node (line : Option Nat) : Nat := line.elim 0 (· + 1)

theorem node_inj {first second : Option Nat} (same : node first = node second) :
    first = second := by
  cases first <;> cases second <;> simp_all [node]

end Lines

namespace Draft

structure Records (entries : List ScriptEntry) (draft : Draft) : Prop where
  settled : draft.Settled
  inOrder : draft.tree.InOrder
  line : ∀ index < draft.tree.size, ∃ entry, entries[index]? = some entry ∧
    draft.tree.depth (index + 1) = entry.indent ∧
    draft.tree.item? (index + 1) = some (entry.command.followedByElse
      (elseFollows entry.indent (entries.drop (index + 1))))

theorem records_empty (entries : List ScriptEntry) : Records entries empty := by
  refine ⟨settled_empty, fun node parent hangs => ?_, fun index within => ?_⟩
  · have known := Tree.le_size_of_parent? hangs
    exact absurd known (Nat.not_succ_le_zero node)
  · exact absurd within (Nat.not_lt_zero index)

theorem Step.records {scope : Scope} {entries rest : List ScriptEntry} {before after : Draft}
    {entry : ScriptEntry} (step : Step scope before after entry rest)
    (records : Records entries before)
    (left : entries.drop before.tree.size = entry :: rest) : Records entries after := by
  have grown := step.size
  have sound := step.settled records.settled
  have here : entries[before.tree.size]? = some entry := by
    rw [← List.head?_drop, left]
    rfl
  have later : entries.drop (before.tree.size + 1) = rest := by
    rw [← List.tail_drop, left]
    rfl
  refine ⟨sound, fun node parent hangs => ?_, fun index within => ?_⟩
  · have known := Tree.le_size_of_parent? hangs
    rcases Nat.eq_or_lt_of_le known with last | earlier
    · rw [last, step.hangs] at hangs
      have same : before.tree.size = node := by omega
      cases shape : after.chain with
      | nil =>
        rw [shape] at hangs
        exact .inl (Option.some.inj hangs).symm
      | cons inner outer =>
        have member : inner ∈ before.openNodes := step.closes.subset (by simp [shape])
        rw [shape] at hangs
        cases hangs
        rw [openNodes, records.settled, List.mem_cons, same] at member
        rw [step.grows.ancestors_eq (by omega)]
        exact .inr member
    · rw [step.grows.parent?_eq (by omega)] at hangs
      rw [step.grows.ancestors_eq (by omega)]
      exact records.inOrder node parent hangs
  · by_cases new : index = before.tree.size
    · subst new
      refine ⟨entry, here, ?_, ?_⟩
      · rw [← grown, Tree.depth, ← sound]
        exact step.level
      · rw [← grown, step.item, later.symm, grown]
    · obtain ⟨line, found, level, item⟩ := records.line index (by omega)
      refine ⟨line, found, ?_, ?_⟩
      · rw [Tree.depth, step.grows.ancestors_eq (by omega)]
        exact level
      · rw [step.grows.item?_eq (by omega)]
        exact item

namespace Records

variable {entries : List ScriptEntry} {draft : Draft} (records : Records entries draft)

include records

/-- A node that is open when a line comes, and one level up, is the one the line hangs under. -/
theorem node_parent? {index parent : Nat} {entry : ScriptEntry}
    (here : entries[index]? = some entry) (known : index ≤ draft.tree.size)
    (around : parent = 0 ∧ entry.indent = 0 ∨
      parent ≠ 0 ∧ (parent = index ∨ parent ∈ draft.tree.ancestors index) ∧
        draft.tree.depth parent + 1 = entry.indent) :
    Lines.node (Lines.parent? entries index) = parent := by
  rw [Lines.parent?, here, Option.bind_some]
  rcases around with ⟨rfl, outermost⟩ | ⟨inner, opened, level⟩
  · rw [closest?_eq_none]
    · rfl
    · intro other within
      cases entries[other]? <;> simp [outermost]
  · obtain ⟨line, rfl⟩ : ∃ line, parent = line + 1 := ⟨parent - 1, by omega⟩
    have before : line < index := by
      rcases opened with rfl | above
      · exact Nat.lt_succ_self line
      · exact Nat.lt_of_succ_lt (Tree.lt_of_mem_ancestors above)
    rw [closest?_eq_some before]
    · rfl
    · obtain ⟨other, found, depth, _⟩ := records.line line (by omega)
      simp [found, ← depth, level]
    · intro between after within
      obtain ⟨other, found, depth, _⟩ := records.line between (by omega)
      have under : line + 1 ∈ draft.tree.ancestors (between + 1) :=
        records.inOrder.mem_ancestors opened (by omega) within
      have deeper := Tree.depth_lt_of_mem_ancestors under
      simp only [found, Option.any_some, beq_eq_false_iff_ne]
      omega

theorem parent?_eq {index : Nat} (within : index < draft.tree.size) :
    draft.tree.parent? (index + 1) = some (Lines.node (Lines.parent? entries index)) := by
  obtain ⟨parent, hangs⟩ : ∃ parent, draft.tree.parent? (index + 1) = some parent :=
    Tree.parent?_isSome (Nat.succ_pos index) within
  obtain ⟨entry, found, depth, _⟩ := records.line index within
  have level := Tree.depth_of_parent? hangs
  rw [hangs, records.node_parent? found (Nat.le_of_lt within)]
  by_cases top : parent = 0
  · rw [if_pos top] at level
    exact .inl ⟨top, by omega⟩
  · rw [if_neg top] at level
    have opened := (records.inOrder index parent hangs).resolve_left top
    exact .inr ⟨top, opened, by omega⟩

theorem ancestors_eq {index : Nat} (within : index < draft.tree.size) :
    draft.tree.ancestors (index + 1) = (Lines.ancestors entries index).map (· + 1) := by
  induction index using Nat.strongRecOn with
  | ind index ih =>
    rw [Tree.ancestors_of_parent? (records.parent?_eq within), Lines.ancestors_eq]
    cases hangs : Lines.parent? entries index with
    | none => rfl
    | some parent =>
      have below := Lines.parent?_lt hangs
      simp [Lines.node, ih parent below (by omega)]

theorem carries_eq {test : Command → Bool}
    (blind : ∀ follows command, test (Command.followedByElse follows command) = test command)
    {index : Nat} (within : index < draft.tree.size) :
    Draft.carries draft.tree test (index + 1) = Lines.carries entries test index := by
  obtain ⟨entry, found, _, item⟩ := records.line index within
  simp [Draft.carries, Lines.carries, item, found, blind]

theorem carries_node {test : Command → Bool}
    (blind : ∀ follows command, test (Command.followedByElse follows command) = test command)
    {line : Option Nat} (within : ∀ index ∈ line, index < draft.tree.size) :
    Draft.carries draft.tree test (Lines.node line) = line.any (Lines.carries entries test) := by
  cases line with
  | none => rfl
  | some index => exact records.carries_eq blind (within index rfl)

/-- The nodes left open for a line are the lines around it. -/
theorem chain_eq {entry : ScriptEntry} (here : entries[draft.tree.size]? = some entry)
    {chain : List Nat} (closes : chain <:+ draft.openNodes) (level : chain.length = entry.indent)
    (inside : ∀ node ∈ chain, node ≠ 0) :
    chain = (Lines.ancestors entries draft.tree.size).map (· + 1) ∧
      parentOf chain = Lines.node (Lines.parent? entries draft.tree.size) := by
  cases shape : chain with
  | nil =>
    rw [shape] at level
    have outermost := records.node_parent? here (Nat.le_refl _) (.inl ⟨rfl, level.symm⟩)
    refine ⟨?_, outermost.symm⟩
    have top : Lines.parent? entries draft.tree.size = none := Lines.node_inj outermost
    rw [Lines.ancestors_eq, top]
    rfl
  | cons parent outer =>
    rw [shape] at closes level inside
    have inner := inside parent List.mem_cons_self
    have opened : parent = draft.tree.size ∨ parent ∈ draft.tree.ancestors draft.tree.size := by
      rw [← records.settled]
      exact List.mem_cons.mp (closes.subset List.mem_cons_self)
    rw [openNodes, records.settled] at closes
    have above := Tree.ancestors_of_suffix closes
    have depth : draft.tree.depth parent + 1 = entry.indent := by
      rw [Tree.depth, above]
      exact level
    have hangs := records.node_parent? here (Nat.le_refl _) (.inr ⟨inner, opened, depth⟩)
    refine ⟨?_, hangs.symm⟩
    obtain ⟨line, rfl⟩ : ∃ line, parent = line + 1 := ⟨parent - 1, by omega⟩
    have before : line < draft.tree.size := by
      rcases opened with last | higher
      · omega
      · have := Tree.lt_of_mem_ancestors higher
        omega
    have found : Lines.parent? entries draft.tree.size = some line := Lines.node_inj hangs
    rw [Lines.ancestors_eq, found, ← above, records.ancestors_eq before]
    rfl

theorem lastChild?_eq :
    draft.tree.lastChild? (Lines.node (Lines.parent? entries draft.tree.size)) =
      (Lines.sibling? entries draft.tree.size).map (· + 1) := by
  rw [Tree.lastChild?_eq_getLast?, Tree.children_eq_filter, Lines.sibling?]
  refine getLast?_filter_range' (fun index within => ?_)
  rw [records.parent?_eq within]
  by_cases same : Lines.parent? entries index = Lines.parent? entries draft.tree.size
  · simp [same]
  · have differs : Lines.node (Lines.parent? entries index) ≠
        Lines.node (Lines.parent? entries draft.tree.size) :=
      fun equal => same (Lines.node_inj equal)
    simp [same, differs]

theorem length_children (whole : draft.tree.size = entries.length) (index : Nat) :
    (draft.tree.children (index + 1)).length = (Lines.children entries index).length := by
  rw [Tree.children_eq_filter, Lines.children, List.range'_eq_map_range, List.filter_map, List.length_map,
    whole]
  congr 1
  refine List.filter_congr (fun other member => ?_)
  have within : other < draft.tree.size := by
    rw [whole]
    exact List.mem_range.mp member
  rw [Function.comp_apply, Nat.add_comm 1 other, records.parent?_eq within]
  cases Lines.parent? entries other <;> simp [Lines.node]

end Records

end Draft

end TileScript
