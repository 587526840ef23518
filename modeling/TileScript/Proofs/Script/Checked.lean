import TileScript.Language.Plain
import TileScript.Proofs.Script.Grammar
import TileScript.Proofs.Tree.Jumps

namespace TileScript

structure Checked (scope : Scope) (tree : Tree Command) (node : Nat) : Prop where
  leavesLoop : tree.item? node = some .breakLoop →
    ∃ steps, (Plain.enclosingLoop? tree node).bind (tree.offsetToExit? node) = some steps
  fullMenu : ∀ choices cancel, tree.item? node = some (.displayChoice choices cancel) →
    (tree.children node).length = choices.length
  cancelInRange : ∀ choices cancel, tree.item? node = some (.displayChoice choices (some cancel)) →
    cancel < choices.length
  commonKnown : ∀ id parameters, tree.item? node = some (.callCommon id parameters) →
    id ∈ scope.commons
  mapKnown : ∀ map target orientation, tree.item? node = some (.teleport map target orientation) →
    map ∈ scope.maps

theorem WellPlaced.leavesLoop {tree : Tree Command} {node : Nat} (placed : WellPlaced tree node)
    (breaks : tree.item? node = some .breakLoop) :
    ∃ steps, (Plain.enclosingLoop? tree node).bind (tree.offsetToExit? node) = some steps := by
  obtain ⟨loop, around, isLoop⟩ := placed.breakInLoop breaks
  have test : (((tree.item? loop).map Command.isLoop).getD false) = true := by
    unfold Draft.carries at isLoop
    split at isLoop
    · rename_i command carried
      simpa [carried] using isLoop
    · cases isLoop
  obtain ⟨nearest, found⟩ : ∃ nearest, Plain.enclosingLoop? tree node = some nearest := by
    rw [← Option.isSome_iff_exists, Plain.enclosingLoop?, List.find?_isSome]
    exact ⟨loop, around, test⟩
  rw [found]
  exact Tree.offsetToExit?_isSome (List.mem_of_find?_eq_some found)

/-- A node was made from a line, which was welcome at its place. -/
theorem welcome_of_item? {scope : Scope} {entries : List ScriptEntry} {final : Draft}
    (placed : Draft.placeAll scope .empty 0 entries = .ok final) {node : Nat} {command : Command}
    (carried : final.tree.item? node = some command) (conditionless : command.isIf = false) :
    ∃ index entry inMenu inLoop afterIf, index + 1 = node ∧ entries[index]? = some entry ∧
      entry.command = command ∧ Welcome scope inMenu inLoop afterIf command := by
  have bounds := Tree.le_size_of_item? carried
  obtain ⟨before, after, earlier, entry, rest, settled, step, here, listed, position, later⟩ :=
    Draft.placeAll_history Draft.settled_empty placed bounds.1 bounds.2
  have extended := Draft.placeAll_extends (step.settled settled) later
  have item := (extended.item?_eq (Nat.le_refl _)).trans step.item
  rw [here, carried] at item
  have same := Draft.eq_of_followedByElse (Option.some.inj item).symm conditionless
  have welcome := (Draft.misplaced?_eq_none_iff _ _ _ _).mp step.welcome
  rw [same] at welcome
  have empty : Draft.empty.tree.size = 0 := rfl
  exact ⟨earlier.length, entry, _, _, _, by omega, by simp [listed], same, welcome⟩

/-- What hangs under a menu of a compiled script is one of its branches. -/
theorem choice_of_inMenu {scope : Scope} {entries : List ScriptEntry} {tree : Tree Command}
    (compiled : compileScript scope entries = .ok tree) {node menu : Nat}
    (hangs : tree.parent? node = some menu)
    (isMenu : Draft.carries tree Command.isMenu menu = true) : tree.item? node = some .choice := by
  obtain ⟨final, placed, rfl, _⟩ := compileScript_ok compiled
  obtain ⟨before, after, _, entry, rest, settled, step, rfl, _, _, later⟩ :=
    Draft.placeAll_history Draft.settled_empty placed (Nat.zero_lt_of_lt (Tree.parent?_lt hangs))
      (Tree.le_size_of_parent? hangs)
  have extended := Draft.placeAll_extends (step.settled settled) later
  have item := (extended.item?_eq (Nat.le_refl _)).trans step.item
  have parent := (extended.parent?_eq (Nat.le_refl _)).symm.trans hangs
  have same := Option.some.inj (step.hangs.symm.trans parent)
  have grown := step.size
  have known : menu ≤ before.tree.size := by
    have below := Tree.parent?_lt hangs
    omega
  rw [Draft.carries_extends (step.grows.trans extended) known, ← same] at isMenu
  have welcome := (Draft.misplaced?_eq_none_iff _ _ _ _).mp step.welcome
  rw [item, welcome.choiceInMenu.mpr isMenu]
  rfl

theorem checked_of_compileScript {scope : Scope} {entries : List ScriptEntry} {tree : Tree Command}
    (compiled : compileScript scope entries = .ok tree) (node : Nat) : Checked scope tree node := by
  have wellPlaced := wellPlaced_of_compileScript compiled node
  obtain ⟨final, placed, rfl, branches⟩ := compileScript_ok compiled
  refine ⟨wellPlaced.leavesLoop, ?_, ?_, ?_, ?_⟩
  · intro choices cancel carried
    obtain ⟨index, entry, _, _, _, rfl, here, menu, _⟩ := welcome_of_item? placed carried rfl
    exact branchMismatch?_eq_none_iff.mp branches index entry here choices cancel menu
  · intro choices cancel carried
    obtain ⟨_, _, _, _, _, _, _, _, welcome⟩ := welcome_of_item? placed carried rfl
    exact welcome.cancelInRange choices cancel rfl
  · intro id parameters carried
    obtain ⟨_, _, _, _, _, _, _, _, welcome⟩ := welcome_of_item? placed carried rfl
    exact welcome.commonKnown id parameters rfl
  · intro map target orientation carried
    obtain ⟨_, _, _, _, _, _, _, _, welcome⟩ := welcome_of_item? placed carried rfl
    exact welcome.mapKnown map target orientation rfl

end TileScript
