import TileScript.Content.Error
import TileScript.Content.Schema
import TileScript.Reaction

namespace TileScript

structure Scope where
  commons : List Nat
  maps : List Nat

/-- A script read so far: its tree, and the nodes a next line may hang under besides the root, the
innermost first. -/
structure Draft where
  tree : Tree Command
  chain : List Nat
  known : ∀ node ∈ chain, node ≤ tree.size

namespace Draft

def empty : Draft := ⟨.empty, [], fun _ member => absurd member List.not_mem_nil⟩

/-- The nodes around a line of some indent. The line may open one level under the line before it, or
close any number of levels. -/
def around (draft : Draft) (indent : Nat) :
    Except Problem { chain : List Nat // ∀ node ∈ chain, node ≤ draft.tree.size } :=
  if indent ≤ draft.chain.length then
    .ok ⟨draft.chain.drop (draft.chain.length - indent),
      fun node member => draft.known node (List.mem_of_mem_drop member)⟩
  else if indent = draft.chain.length + 1 then
    if draft.tree.size = 0 then .error .nestedStart
    else
      .ok ⟨draft.tree.size :: draft.chain, fun node member => by
        rcases List.mem_cons.mp member with rfl | member
        · exact Nat.le_refl _
        · exact draft.known node member⟩
  else .error (.indentJump draft.chain.length indent)

def parentOf (chain : List Nat) : Nat := chain.headD 0

theorem parentOf_le {tree : Tree Command} {chain : List Nat}
    (known : ∀ node ∈ chain, node ≤ tree.size) : parentOf chain ≤ tree.size := by
  cases chain with
  | nil => exact Nat.zero_le _
  | cons node rest => exact known node List.mem_cons_self

def carries (tree : Tree Command) (test : Command → Bool) (node : Nat) : Bool :=
  match tree.item? node with
  | some command => test command
  | none => false

def misplaced? (scope : Scope) (tree : Tree Command) (chain : List Nat) (command : Command) :
    Option Problem :=
  let parent := parentOf chain
  let inMenu := carries tree Command.isMenu parent
  let placement : Option Problem :=
    match command with
    | .elseBranch =>
      if ((tree.lastChild? parent).map (carries tree Command.isIf)).getD false then none
      else some .elseWithoutIf
    | .choice => if inMenu then none else some .choiceOutsideMenu
    | .breakLoop =>
      if chain.any (carries tree Command.isLoop) then none else some .breakOutsideLoop
    | .callCommon id _ => if scope.commons.contains id then none else some (.unknownCommon id)
    | .teleport map _ _ => if scope.maps.contains map then none else some (.unknownMap map)
    | .displayChoice choices (some cancel) =>
      if cancel < choices.length then none else some (.cancelIndexOutOfRange choices.length)
    | _ => none
  placement.or (if inMenu && !command.isChoice then some .notABranch else none)

def elseFollows (indent : Nat) (rest : List ScriptEntry) : Bool :=
  match rest.find? (·.indent ≤ indent) with
  | some entry => entry.indent == indent && entry.command.isElse
  | none => false

def place (scope : Scope) (draft : Draft) (entry : ScriptEntry) (rest : List ScriptEntry) :
    Except Problem Draft :=
  match draft.around entry.indent with
  | .error problem => .error problem
  | .ok ⟨chain, known⟩ =>
    match misplaced? scope draft.tree chain entry.command with
    | some problem => .error problem
    | none =>
      .ok {
        tree := draft.tree.add (parentOf chain)
          (entry.command.followedByElse (elseFollows entry.indent rest)) (parentOf_le known)
        chain := chain
        known := fun node member => by
          have within := known node member
          simp only [Tree.add, Tree.size, Array.size_push] at within ⊢
          omega }

def placeAll (scope : Scope) : Draft → Nat → List ScriptEntry → Except (Problem × Nat) Draft
  | draft, _, [] => .ok draft
  | draft, index, entry :: rest =>
    match draft.place scope entry rest with
    | .error problem => .error (problem, index)
    | .ok placed => placeAll scope placed (index + 1) rest

end Draft

def branchMismatch? (tree : Tree Command) (entries : List ScriptEntry) : Option (Problem × Nat) :=
  entries.zipIdx.findSome? (fun (entry, index) =>
    match entry.command with
    | .displayChoice choices _ =>
      let found := (tree.children (index + 1)).length
      if found = choices.length then none else some (.branchCount choices.length found, index)
    | _ => none)

def compileScript (scope : Scope) (entries : List ScriptEntry) :
    Except (Problem × Nat) (Tree Command) :=
  match Draft.placeAll scope .empty 0 entries with
  | .error problem => .error problem
  | .ok draft =>
    match branchMismatch? draft.tree entries with
    | some problem => .error problem
    | none => .ok draft.tree

end TileScript
