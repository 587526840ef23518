import TileScript.Content.Script
import TileScript.Proofs.Tree.Growth

namespace TileScript.Draft

def openNodes (draft : Draft) : List Nat := draft.tree.size :: draft.chain

def Settled (draft : Draft) : Prop := draft.chain = draft.tree.ancestors draft.tree.size

theorem settled_empty : Settled empty := by
  simp [Settled, empty, Tree.ancestors_eq, Tree.size, Tree.empty, Tree.parent?]

/-- What one accepted line does: it closes some levels and hangs under the innermost one left. -/
structure Step (scope : Scope) (before after : Draft) (entry : ScriptEntry)
    (rest : List ScriptEntry) : Prop where
  closes : after.chain <:+ before.openNodes
  level : after.chain.length = entry.indent
  inside : ∀ node ∈ after.chain, node ≠ 0
  welcome : misplaced? scope before.tree after.chain entry.command = none
  grows : before.tree.Extends after.tree
  size : after.tree.size = before.tree.size + 1
  hangs : after.tree.parent? after.tree.size = some (parentOf after.chain)
  item : after.tree.item? after.tree.size =
    some (entry.command.followedByElse (elseFollows entry.indent rest))

theorem around_ok {draft : Draft} {indent : Nat}
    {around : { chain : List Nat // ∀ node ∈ chain, node ≤ draft.tree.size }}
    (fits : draft.around indent = .ok around) :
    around.1 <:+ draft.openNodes ∧ around.1.length = indent ∧
      (draft.tree.size = 0 → around.1 <:+ draft.chain) := by
  unfold Draft.around at fits
  split at fits
  · rename_i shallow
    cases fits
    refine ⟨(List.drop_suffix _ _).trans (List.suffix_cons _ _), ?_, fun _ => List.drop_suffix _ _⟩
    simp only [List.length_drop]
    omega
  · split at fits
    · rename_i deeper
      split at fits
      · cases fits
      · rename_i begun
        cases fits
        exact ⟨List.suffix_refl _, by simp [deeper], fun none => absurd none begun⟩
    · cases fits

theorem around_inside {draft : Draft} {indent : Nat} (settled : draft.Settled)
    {around : { chain : List Nat // ∀ node ∈ chain, node ≤ draft.tree.size }}
    (fits : draft.around indent = .ok around) : ∀ node ∈ around.1, node ≠ 0 := by
  obtain ⟨closes, _, first⟩ := around_ok fits
  have above : ∀ node ∈ draft.chain, node ≠ 0 := by
    intro node member
    rw [settled] at member
    exact Tree.ne_zero_of_mem_ancestors member
  intro node member
  by_cases none : draft.tree.size = 0
  · exact above node ((first none).subset member)
  · rcases List.mem_cons.mp (closes.subset member) with rfl | member
    · exact none
    · exact above node member

theorem place_ok {scope : Scope} {before after : Draft} {entry : ScriptEntry}
    {rest : List ScriptEntry} (settled : before.Settled)
    (placed : before.place scope entry rest = .ok after) : Step scope before after entry rest := by
  unfold place at placed
  split at placed
  · cases placed
  · rename_i chain known fits
    split at placed
    · cases placed
    · rename_i welcome
      cases placed
      obtain ⟨closes, level, _⟩ := around_ok fits
      refine ⟨closes, level, around_inside settled fits, welcome,
        Tree.extends_add _ _ _ (parentOf_le known), Tree.size_add _ _ _ (parentOf_le known), ?_, ?_⟩
      · rw [Tree.size_add]
        exact Tree.parent?_add _ _ _ (parentOf_le known)
      · rw [Tree.size_add]
        exact Tree.item?_add _ _ _ (parentOf_le known)

namespace Step

variable {scope : Scope} {before after : Draft} {entry : ScriptEntry} {rest : List ScriptEntry}

theorem settled (step : Step scope before after entry rest) (earlier : before.Settled) :
    after.Settled := by
  rw [Settled, Tree.ancestors_of_parent? step.hangs]
  cases shape : after.chain with
  | nil => simp [parentOf]
  | cons inner outer =>
    have positive : inner ≠ 0 := step.inside inner (by simp [shape])
    have closes := step.closes
    have known : inner ≤ before.tree.size := by
      have member : inner ∈ before.openNodes := closes.subset (by simp [shape])
      rcases List.mem_cons.mp member with rfl | above
      · exact Nat.le_refl _
      · exact before.known inner above
    rw [shape, openNodes, earlier] at closes
    have above := Tree.ancestors_of_suffix closes
    simp only [parentOf, List.headD_cons, positive, ↓reduceIte, List.cons.injEq, true_and]
    rw [step.grows.ancestors_eq known, above]

theorem stays_closed (step : Step scope before after entry rest) {node : Nat}
    (known : node ≤ before.tree.size) (closed : node ∉ before.openNodes) :
    node ∉ after.openNodes := by
  intro opened
  rcases List.mem_cons.mp opened with rfl | member
  · have grown := step.size
    omega
  · exact closed (step.closes.subset member)

end Step

theorem placeAll_cons {scope : Scope} {draft final : Draft} {index : Nat} {entry : ScriptEntry}
    {rest : List ScriptEntry} (placed : placeAll scope draft index (entry :: rest) = .ok final) :
    ∃ next, draft.place scope entry rest = .ok next ∧
      placeAll scope next (index + 1) rest = .ok final := by
  unfold placeAll at placed
  split at placed
  · cases placed
  · rename_i next first
    exact ⟨next, first, placed⟩

theorem placeAll_extends {scope : Scope} {draft final : Draft} {index : Nat}
    {entries : List ScriptEntry} (settled : draft.Settled)
    (placed : placeAll scope draft index entries = .ok final) :
    draft.tree.Extends final.tree := by
  induction entries generalizing draft index with
  | nil =>
    cases placed
    exact .refl _
  | cons entry rest ih =>
    obtain ⟨next, first, later⟩ := placeAll_cons placed
    have step := place_ok settled first
    exact step.grows.trans (ih (step.settled settled) later)

theorem parent_open {draft : Draft} {parent : Nat} (settled : draft.Settled)
    (hangs : draft.tree.parent? draft.tree.size = some parent) (inner : parent ≠ 0) :
    parent ∈ draft.openNodes := by
  have above := Tree.ancestors_of_parent? hangs
  rw [if_neg inner, ← settled] at above
  simp [openNodes, above]

theorem placeAll_closed_last {scope : Scope} {draft final : Draft} {index node : Nat}
    {entries : List ScriptEntry} (settled : draft.Settled)
    (placed : placeAll scope draft index entries = .ok final) (inner : node ≠ 0)
    (closed : node ∉ draft.openNodes) : final.tree.parent? draft.tree.size ≠ some node := by
  intro hangs
  rw [(placeAll_extends settled placed).parent?_eq (Nat.le_refl _)] at hangs
  exact closed (parent_open settled hangs inner)

/-- From the last line on, nothing hangs under a node that is no longer open. -/
theorem placeAll_closed {scope : Scope} {draft final : Draft} {index node : Nat}
    {entries : List ScriptEntry} (settled : draft.Settled)
    (placed : placeAll scope draft index entries = .ok final) (inner : node ≠ 0)
    (known : node ≤ draft.tree.size) (closed : node ∉ draft.openNodes) :
    ∀ later, draft.tree.size ≤ later → final.tree.parent? later ≠ some node := by
  have atLast := placeAll_closed_last settled placed inner closed
  intro later beyond
  by_cases last : later = draft.tree.size
  · exact last ▸ atLast
  · induction entries generalizing draft index with
    | nil =>
      cases placed
      intro hangs
      have inside := Tree.le_size_of_parent? hangs
      omega
    | cons entry rest ih =>
      obtain ⟨next, first, remaining⟩ := placeAll_cons placed
      have step := place_ok settled first
      have grown := step.size
      have stillClosed := step.stays_closed known closed
      have atNext := placeAll_closed_last (step.settled settled) remaining inner stillClosed
      by_cases now : later = next.tree.size
      · exact now ▸ atNext
      · exact ih (step.settled settled) remaining (by omega) stillClosed atNext (by omega) now

/-- Every node was placed by one line, and the lines after it were placed on top of that. -/
theorem placeAll_history {scope : Scope} {draft final : Draft} {index node : Nat}
    {entries : List ScriptEntry} (settled : draft.Settled)
    (placed : placeAll scope draft index entries = .ok final) (fresh : draft.tree.size < node)
    (known : node ≤ final.tree.size) :
    ∃ before after earlier entry rest,
      before.Settled ∧ Step scope before after entry rest ∧ after.tree.size = node ∧
        entries = earlier ++ entry :: rest ∧ draft.tree.size + earlier.length + 1 = node ∧
        placeAll scope after (index + earlier.length + 1) rest = .ok final := by
  induction entries generalizing draft index with
  | nil =>
    cases placed
    omega
  | cons entry rest ih =>
    obtain ⟨next, first, remaining⟩ := placeAll_cons placed
    have step := place_ok settled first
    have grown := step.size
    by_cases now : node = next.tree.size
    · exact ⟨draft, next, [], entry, rest, settled, step, now.symm, rfl, by simp; omega, remaining⟩
    · obtain ⟨before, after, earlier, line, later, sound, made, size, split, position, rest⟩ :=
        ih (step.settled settled) remaining (by omega)
      refine ⟨before, after, entry :: earlier, line, later, sound, made, size, ?_, ?_, ?_⟩
      · rw [split, List.cons_append]
      · simp only [List.length_cons]
        omega
      · have same : index + (entry :: earlier).length + 1 = index + 1 + earlier.length + 1 := by
          simp only [List.length_cons]
          omega
        rw [same]
        exact rest

theorem parent?_of_open {draft : Draft} {node : Nat} {outer : List Nat} (settled : draft.Settled)
    (inner : node ≠ 0) (opened : node :: outer <:+ draft.openNodes) :
    draft.tree.parent? node = some (parentOf outer) := by
  have known : node ≤ draft.tree.size := by
    rcases List.mem_cons.mp (opened.subset List.mem_cons_self) with rfl | above
    · exact Nat.le_refl _
    · exact draft.known node above
  obtain ⟨parent, hangs⟩ := Tree.parent?_isSome (Nat.pos_of_ne_zero inner) known
  rw [openNodes, settled] at opened
  have above := Tree.ancestors_of_suffix opened
  rw [Tree.ancestors_of_parent? hangs] at above
  rw [hangs, ← above]
  by_cases top : parent = 0 <;> simp [top, parentOf]

theorem Step.closes_parent {scope : Scope} {before after : Draft} {entry : ScriptEntry}
    {rest : List ScriptEntry} {parent : Nat} {outer : List Nat}
    (step : Step scope before after entry rest) (settled : before.Settled)
    (opened : parent :: outer <:+ before.openNodes) (shallower : entry.indent ≤ outer.length) :
    parent ∉ after.openNodes := by
  have outerOpen : outer <:+ before.openNodes := (List.suffix_cons parent outer).trans opened
  have within : after.chain <:+ outer := by
    refine List.suffix_of_suffix_length_le step.closes outerOpen ?_
    rw [step.level]
    exact shallower
  have known : parent ∈ before.openNodes := opened.subset List.mem_cons_self
  rw [openNodes, settled] at opened
  have above := Tree.ancestors_of_suffix opened
  intro member
  rcases List.mem_cons.mp member with rfl | member
  · have grown := step.size
    rcases List.mem_cons.mp known with same | earlier
    · omega
    · have bound := before.known _ earlier
      omega
  · have inside := within.subset member
    rw [← above] at inside
    exact Nat.lt_irrefl _ (Tree.lt_of_mem_ancestors inside)

theorem Step.stays_open {scope : Scope} {before after : Draft} {entry : ScriptEntry}
    {rest : List ScriptEntry} {node : Nat} {outer : List Nat}
    (step : Step scope before after entry rest) (settled : before.Settled)
    (opened : node :: outer <:+ before.openNodes) (deeper : outer.length < entry.indent) :
    node :: outer <:+ after.chain ∧ node ≤ parentOf after.chain := by
  have within : node :: outer <:+ after.chain := by
    refine List.suffix_of_suffix_length_le opened step.closes ?_
    rw [step.level]
    exact deeper
  refine ⟨within, ?_⟩
  have sound := step.settled settled
  cases shape : after.chain with
  | nil => simp [shape] at within
  | cons parent above =>
    rw [Settled, shape] at sound
    rw [shape] at within
    have chain : parent :: above <:+ after.tree.size :: after.tree.ancestors after.tree.size := by
      rw [← sound]
      exact List.suffix_cons _ _
    have higher := Tree.ancestors_of_suffix chain
    rcases List.suffix_cons_iff.mp within with same | strictly
    · cases same
      exact Nat.le_refl _
    · have member : node ∈ above := strictly.subset List.mem_cons_self
      rw [← higher] at member
      exact Nat.le_of_lt (Tree.lt_of_mem_ancestors member)

theorem isElse_followedByElse (follows : Bool) (command : Command) :
    (command.followedByElse follows).isElse = command.isElse := by
  cases command <;> rfl

theorem elseFollows_deeper {indent : Nat} {entry : ScriptEntry} {rest : List ScriptEntry}
    (deeper : indent < entry.indent) :
    elseFollows indent (entry :: rest) = elseFollows indent rest := by
  have passed : ¬ entry.indent ≤ indent := by omega
  simp [elseFollows, passed]

theorem elseFollows_reached {indent : Nat} {entry : ScriptEntry} {rest : List ScriptEntry}
    (reached : entry.indent ≤ indent) :
    elseFollows indent (entry :: rest) = (entry.indent == indent && entry.command.isElse) := by
  simp [elseFollows, reached]

/--
While a node is open and has no later sibling yet, the lines still to come decide whether an else
branch will be its next sibling: the first line that is not inside the node.
-/
theorem nextSibling?_isElse {scope : Scope} {draft final : Draft} {index node : Nat}
    {outer : List Nat} {entries : List ScriptEntry} (settled : draft.Settled)
    (placed : placeAll scope draft index entries = .ok final) (inner : node ≠ 0)
    (opened : node :: outer <:+ draft.openNodes)
    (alone : ∀ later, node < later → later ≤ draft.tree.size →
      draft.tree.parent? later ≠ draft.tree.parent? node) :
    (final.tree.nextSibling? node).any (carries final.tree Command.isElse) =
      elseFollows outer.length entries := by
  induction entries generalizing draft index with
  | nil =>
    cases placed
    rw [Tree.nextSibling?_eq_none_iff.mpr alone]
    rfl
  | cons entry rest ih =>
    obtain ⟨next, first, remaining⟩ := placeAll_cons placed
    have step := place_ok settled first
    have grown := step.size
    have sound := step.settled settled
    have hangs := parent?_of_open settled inner opened
    have known := Tree.le_size_of_parent? hangs
    have extended := placeAll_extends sound remaining
    have stillHangs : final.tree.parent? node = some (parentOf outer) := by
      rw [extended.parent?_eq (by omega), step.grows.parent?_eq known, hangs]
    have outerOpen : outer <:+ draft.openNodes := (List.suffix_cons node outer).trans opened
    rcases Nat.lt_trichotomy entry.indent outer.length with shallower | same | deeper
    · -- The parent of the node is closed, so nothing will ever follow the node.
      cases shape : outer with
      | nil => simp [shape] at shallower
      | cons parent above =>
        rw [shape] at shallower outerOpen
        have closed := step.closes_parent settled outerOpen (Nat.le_of_lt_succ shallower)
        have positive : parent ≠ 0 := by
          intro root
          rw [shape] at opened
          rw [openNodes, settled] at opened
          have above := Tree.ancestors_of_suffix opened
          exact Tree.ne_zero_of_mem_ancestors (above ▸ List.mem_cons_self) root
        have parentKnown : parent ≤ draft.tree.size := by
          have up := Tree.parent?_lt hangs
          simp only [shape, parentOf, List.headD_cons] at up
          omega
        have none : final.tree.nextSibling? node = none := by
          refine Tree.nextSibling?_eq_none_iff.mpr (fun later after inside => ?_)
          rw [stillHangs]
          simp only [shape, parentOf, List.headD_cons] at hangs ⊢
          by_cases early : later ≤ draft.tree.size
          · rw [extended.parent?_eq (by omega), step.grows.parent?_eq early, ← hangs]
            exact alone later after early
          · exact placeAll_closed sound remaining positive (by omega) closed later (by omega)
        have differs : (entry.indent == (parent :: above).length) = false := by
          simpa using Nat.ne_of_lt shallower
        rw [none, elseFollows_reached (Nat.le_of_lt shallower), differs]
        rfl
    · -- The line is the next sibling.
      have chain : next.chain = outer :=
        (List.suffix_of_suffix_length_le step.closes outerOpen
          (Nat.le_of_eq (by rw [step.level, same]))).eq_of_length (by rw [step.level, same])
      have sibling : final.tree.nextSibling? node = some next.tree.size := by
        refine Tree.nextSibling?_eq_some_iff.mpr ⟨⟨by omega, extended.size_le⟩, ?_, ?_⟩
        · rw [extended.parent?_eq (Nat.le_refl _), step.hangs, stillHangs, chain]
        · intro between after before
          rw [stillHangs, ← hangs, extended.parent?_eq (by omega), step.grows.parent?_eq (by omega)]
          exact alone between after (by omega)
      have item := (extended.item?_eq (Nat.le_refl _)).trans step.item
      rw [sibling, Option.any_some, elseFollows_reached (by omega)]
      simp [Draft.carries, item, isElse_followedByElse, same]
    · -- The line is inside the node.
      obtain ⟨within, below⟩ := step.stays_open settled opened deeper
      rw [elseFollows_deeper deeper]
      refine ih sound remaining (within.trans (List.suffix_cons _ _)) ?_
      intro later after inside
      rw [step.grows.parent?_eq known]
      by_cases last : later = next.tree.size
      · have above := Tree.parent?_lt hangs
        rw [last, step.hangs, hangs]
        intro equal
        have equal := Option.some.inj equal
        omega
      · rw [step.grows.parent?_eq (by omega)]
        exact alone later after (by omega)

end TileScript.Draft
