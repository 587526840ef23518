import TileScript.Language.Lookup

namespace TileScript.Plain

abbrev Outcome := Except Failure (Flow × Stage)

def ifThen (context : Context) (condition : Condition) (hasElse : Bool) (stage : Stage) : Outcome :=
  match context.evaluate stage.world condition with
  | .error failure => .error failure
  | .ok true => .ok (.next, stage)
  | .ok false =>
    let skip := context.tree.skipOffset context.node
    .ok (.advance (if hasElse then skip + 1 else skip), stage)

/-- An else branch is entered here only after the conditional took its own branch: pass it. -/
def elseBranch (context : Context) (stage : Stage) : Outcome :=
  .ok (.advance (context.tree.skipOffset context.node), stage)

def whileLoop (context : Context) (condition : Condition) (stage : Stage) : Outcome :=
  match context.evaluate stage.world condition with
  | .error failure => .error failure
  | .ok true => .ok (.next, stage)
  | .ok false => .ok (.advance (context.tree.skipOffset context.node), stage)

def enclosingLoop? (tree : Tree Command) (node : Nat) : Option Nat :=
  (tree.ancestors node).find? (fun ancestor =>
    ((tree.item? ancestor).map Command.isLoop).getD false)

/-- Goes just past the innermost enclosing loop; outside any loop it only goes on. -/
def breakLoop (context : Context) (stage : Stage) : Outcome :=
  match (enclosingLoop? context.tree context.node).bind
      (context.tree.offsetToExit? context.node) with
  | some offset => .ok (.advance offset, stage)
  | none => .ok (.next, stage)

/-- Enters the branch of a menu, or leaves the menu if the branch is empty. -/
def choice (context : Context) (stage : Stage) : Outcome :=
  if context.tree.hasChildren context.node then .ok (.next, stage)
  else .ok (.advance (context.tree.offsetToParentReturn context.node), stage)

def updated (operation : VariableOperation) (current operand : Value) : Except Failure Value :=
  match operation with
  | .set => .ok operand
  | arithmetic =>
    match current.asNumber with
    | .error failure => .error failure
    | .ok left =>
      match operand.asNumber with
      | .error failure => .error failure
      | .ok right =>
        .ok (.number (match arithmetic with
          | .add => left + right
          | .sub => left - right
          | _ => left * right))

def setVariable (context : Context) (id : Nat) (operation : VariableOperation) (value : Operand)
    (stage : Stage) : Outcome :=
  match context.resolve stage.world value with
  | .error failure => .error failure
  | .ok operand =>
    match updated operation (stage.world.valueOf id) operand with
    | .error failure => .error failure
    | .ok result => .ok (.next, { stage with world := stage.world.setVariable id result })

def target (context : Context) (world : World) (kind : String) : Receiver →
    Except Failure EventTarget
  | .all => .ok (.allExcept none)
  | .allOthers => .ok (.allExcept context.trigger.object)
  | .object id => (context.referred world kind (.object id)).map (fun found => .object found.1)
  | .sender => (context.referred world kind .sender).map (fun found => .object found.1)
  | .hero => (context.referred world kind .hero).map (fun found => .object found.1)
  | .this => (context.referred world kind .this).map (fun found => .object found.1)

def sendEvent (context : Context) (kind : String) (receiver : Receiver) (system : Bool)
    (event : Nat) (parameters : List Operand) (stage : Stage) : Outcome :=
  match target context stage.world kind receiver with
  | .error failure => .error failure
  | .ok found =>
    match context.resolveAll stage.world parameters with
    | .error failure => .error failure
    | .ok values =>
      .ok (.next, { stage with
        effects := stage.effects.queue ⟨context.trigger.object, found, system, event, values⟩ })

def teleport (map : Nat) (position : Position) (orientation : Option Orientation)
    (stage : Stage) : Outcome :=
  if stage.world.map = some map then
    let hero := stage.world.heroOrDefault
    match stage.world.object? hero with
    | none => .error (.missingObject hero)
    | some _ =>
      .ok (.next, { stage with
        world := stage.world.modifyObject hero (fun object =>
          { object with
            position := position
            orientation := orientation.getD object.orientation }) })
  else
    .ok (.next, { stage with effects := stage.effects.requestScene ⟨map, position, orientation⟩ })

def changeState (context : Context) (kind : String) (reference : ObjectRef) (state : Nat)
    (operation : StateOperation) (stage : Stage) : Outcome :=
  match context.referred stage.world kind reference with
  | .error failure => .error failure
  | .ok (id, object) =>
    if operation ≠ .remove ∧ !object.model.hasState state then .error (.missingState state)
    else
      .ok (.next, { stage with
        world := stage.world.modifyObject id (fun object =>
          match operation with
          | .replace => { object with states := [state] }
          | .add => object.addState state
          | .remove => object.removeState state) })

def removeObject (context : Context) (kind : String) (reference : ObjectRef) (stage : Stage) :
    Outcome :=
  match context.referred stage.world kind reference with
  | .error failure => .error failure
  | .ok (id, _) => .ok (.next, { stage with world := stage.world.removeObject id })

end TileScript.Plain
