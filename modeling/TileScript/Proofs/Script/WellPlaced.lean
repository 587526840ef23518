import TileScript.Proofs.Script.Outline

namespace TileScript

structure WellPlaced (tree : Tree Command) (node : Nat) : Prop where
  knowsElse : ∀ condition hasElse, tree.item? node = some (.ifThen condition hasElse) →
    hasElse = (tree.nextSibling? node).any (Draft.carries tree Command.isElse)
  choiceInMenu : tree.item? node = some .choice →
    ∃ menu, tree.parent? node = some menu ∧ Draft.carries tree Command.isMenu menu = true
  breakInLoop : tree.item? node = some .breakLoop →
    ∃ loop ∈ tree.ancestors node, Draft.carries tree Command.isLoop loop = true

namespace Draft

theorem carries_root (tree : Tree Command) (test : Command → Bool) : carries tree test 0 = false :=
  rfl

theorem carries_extends {earlier later : Tree Command} (grown : earlier.Extends later) {node : Nat}
    (known : node ≤ earlier.size) (test : Command → Bool) :
    carries later test node = carries earlier test node := by
  rw [carries, carries, grown.item?_eq known]

theorem misplaced?_choice {scope : Scope} {tree : Tree Command} {chain : List Nat}
    (welcome : misplaced? scope tree chain .choice = none) :
    carries tree Command.isMenu (parentOf chain) = true := by
  simpa [misplaced?, Option.or_eq_none_iff, Command.isChoice] using welcome

theorem misplaced?_breakLoop {scope : Scope} {tree : Tree Command} {chain : List Nat}
    (welcome : misplaced? scope tree chain .breakLoop = none) :
    ∃ loop ∈ chain, carries tree Command.isLoop loop = true := by
  have inLoop : chain.any (carries tree Command.isLoop) = true := by
    simpa using (Option.or_eq_none_iff.mp welcome).1
  exact List.any_eq_true.mp inLoop

theorem eq_of_followedByElse {command plain : Command} {follows : Bool}
    (same : command.followedByElse follows = plain) (conditionless : plain.isIf = false) :
    command = plain := by
  cases command with
  | ifThen condition hasElse =>
    subst same
    cases conditionless
  | _ => exact same

theorem hasElse_of_followedByElse {command : Command} {condition : Condition}
    {follows hasElse : Bool}
    (same : command.followedByElse follows = .ifThen condition hasElse) : hasElse = follows := by
  cases command with
  | ifThen condition known =>
    cases same
    rfl
  | _ => cases same

theorem Step.wellPlaced {scope : Scope} {before after final : Draft} {index : Nat}
    {entry : ScriptEntry} {rest : List ScriptEntry} (step : Step scope before after entry rest)
    (settled : before.Settled) (placed : placeAll scope after index rest = .ok final) :
    WellPlaced final.tree after.tree.size := by
  have sound := step.settled settled
  have grown := step.size
  have extended := placeAll_extends sound placed
  have whole := step.grows.trans extended
  have item := (extended.item?_eq (Nat.le_refl _)).trans step.item
  have hangs := (extended.parent?_eq (Nat.le_refl _)).trans step.hangs
  have above := (extended.ancestors_eq (Nat.le_refl _)).trans sound.symm
  have known : ∀ node ∈ after.chain, node ≤ before.tree.size := by
    intro node member
    rcases List.mem_cons.mp (step.closes.subset member) with rfl | earlier
    · exact Nat.le_refl _
    · exact before.known node earlier
  refine ⟨?_, ?_, ?_⟩
  · intro condition hasElse carried
    have flag := hasElse_of_followedByElse (Option.some.inj (item.symm.trans carried))
    rw [flag, ← step.level]
    refine (nextSibling?_isElse sound placed (by omega) (List.suffix_refl _) ?_).symm
    intro later beyond inside
    omega
  · intro carried
    have command := eq_of_followedByElse (Option.some.inj (item.symm.trans carried)) rfl
    have welcome := step.welcome
    rw [command] at welcome
    refine ⟨parentOf after.chain, hangs, ?_⟩
    rw [carries_extends whole (parentOf_le known)]
    exact misplaced?_choice welcome
  · intro carried
    have command := eq_of_followedByElse (Option.some.inj (item.symm.trans carried)) rfl
    have welcome := step.welcome
    rw [command] at welcome
    obtain ⟨loop, member, isLoop⟩ := misplaced?_breakLoop welcome
    refine ⟨loop, above ▸ member, ?_⟩
    rw [carries_extends whole (known loop member)]
    exact isLoop

end Draft

theorem compileScript_ok {scope : Scope} {entries : List ScriptEntry} {tree : Tree Command}
    (compiled : compileScript scope entries = .ok tree) :
    ∃ final, Draft.placeAll scope .empty 0 entries = .ok final ∧ final.tree = tree ∧
      branchMismatch? tree entries = none := by
  unfold compileScript at compiled
  split at compiled
  · cases compiled
  · rename_i final placed
    split at compiled
    · cases compiled
    · rename_i branches
      cases compiled
      exact ⟨final, placed, rfl, branches⟩

theorem wellPlaced_of_placeAll {scope : Scope} {entries : List ScriptEntry} {final : Draft}
    (placed : Draft.placeAll scope .empty 0 entries = .ok final) (node : Nat) :
    WellPlaced final.tree node := by
  cases carried : final.tree.item? node with
  | none => constructor <;> simp [carried]
  | some command =>
    have bounds := Tree.le_size_of_item? carried
    obtain ⟨before, after, _, entry, rest, settled, step, rfl, _, _, later⟩ :=
      Draft.placeAll_history Draft.settled_empty placed bounds.1 bounds.2
    exact step.wellPlaced settled later

/-- Every command of a compiled script is where it belongs. -/
theorem wellPlaced_of_compileScript {scope : Scope} {entries : List ScriptEntry}
    {tree : Tree Command} (compiled : compileScript scope entries = .ok tree) (node : Nat) :
    WellPlaced tree node := by
  obtain ⟨final, placed, rfl, _⟩ := compileScript_ok compiled
  exact wellPlaced_of_placeAll placed node

end TileScript
