import TileScript.Value

namespace TileScript

inductive Failure where
  | missingObject (id : Nat)
  | missingState (id : Nat)
  | missingCommon (id : Nat)
  | missingParameter (index : Nat)
  | noActingObject (kind : String)
  | incomparable (left right : Value)
  | notANumber (value : Value)
  | callTooDeep (id limit : Nat)
  | calledReactionFailed (id : Nat)
  | stateMismatch (kind : String)

def Failure.message : Failure → String
  | missingObject id =>
    s!"Impossible to get the object ID {id}. Please check if this ID exists in the software."
  | missingState id =>
    s!"Impossible to get the state ID {id}. Please check if this ID exists in the software."
  | missingCommon id =>
    s!"Impossible to get the common reaction ID {id}. " ++
      "Please check if this ID exists in the software."
  | missingParameter index => s!"parameter {index} was not passed to this reaction"
  | noActingObject kind => s!"command {kind} needs an object but the reaction is not bound to one"
  | incomparable left right => s!"cannot compare {left.display} with {right.display}"
  | notANumber value => s!"value {value.display} is not a number"
  | callTooDeep id limit => s!"common reaction {id} nested deeper than {limit} calls"
  | calledReactionFailed id => s!"common reaction {id} stopped on an error"
  | stateMismatch kind => s!"command {kind} was handed a state it did not create"

def Value.asNumber (value : Value) : Except Failure Float :=
  match value with
  | .number amount => .ok amount
  | other => .error (.notANumber other)

end TileScript
