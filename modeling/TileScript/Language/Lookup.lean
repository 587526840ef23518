import TileScript.Run.Basic

namespace TileScript

namespace Context

def resolve (context : Context) (world : World) : Operand → Except Failure Value
  | .constant value => .ok value
  | .ofVariable id => .ok (world.valueOf id)
  | .ofParameter index =>
    match context.trigger.parameters[index]? with
    | some value => .ok value
    | none => .error (.missingParameter index)

def resolveAll (context : Context) (world : World) : List Operand → Except Failure (List Value)
  | [] => .ok []
  | operand :: operands =>
    match context.resolve world operand with
    | .error failure => .error failure
    | .ok value =>
      match context.resolveAll world operands with
      | .error failure => .error failure
      | .ok values => .ok (value :: values)

def evaluate (context : Context) (world : World) (condition : Condition) : Except Failure Bool :=
  match context.resolve world condition.left with
  | .error failure => .error failure
  | .ok left =>
    match context.resolve world condition.right with
    | .error failure => .error failure
    | .ok right => condition.comparison.holds left right

def resolveNumber (context : Context) (world : World) (operand : Operand) : Except Failure Float :=
  match context.resolve world operand with
  | .error failure => .error failure
  | .ok value => value.asNumber

def referredId (context : Context) (world : World) (kind : String) :
    ObjectRef → Except Failure Nat
  | .this =>
    match context.trigger.object with
    | some id => .ok id
    | none => .error (.noActingObject kind)
  | .hero => .ok world.heroOrDefault
  | .sender =>
    match context.trigger.sender with
    | some id => .ok id
    | none => .error (.noActingObject kind)
  | .object id => .ok id

def referred (context : Context) (world : World) (kind : String) (reference : ObjectRef) :
    Except Failure (Nat × MapObject) :=
  match context.referredId world kind reference with
  | .error failure => .error failure
  | .ok id =>
    match world.object? id with
    | some object => .ok (id, object)
    | none => .error (.missingObject id)

end Context

end TileScript
