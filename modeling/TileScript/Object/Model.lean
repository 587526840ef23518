import TileScript.IdMap
import TileScript.Reaction

namespace TileScript

def actionEvent : Nat := 0

/-- The event raised by an object's own clock; its parameters are the interval and whether it
repeats. -/
def timeEvent : Nat := 1

structure StateDef where
  id : Nat
  directionFix : Bool
  route : Option Reaction

structure Handler where
  system : Bool
  event : Nat
  /-- One filter per parameter position; `none` accepts anything. -/
  filters : List (Option Value)
  reactions : IdMap Reaction

namespace Handler

def accepts : List (Option Value) → List Value → Bool
  | [], _ => true
  | none :: filters, parameters => accepts filters parameters.tail
  | some _ :: _, [] => false
  | some expected :: filters, parameter :: parameters =>
    parameter == expected && accepts filters parameters

def answers (handler : Handler) (system : Bool) (event : Nat) (parameters : List Value) : Bool :=
  handler.system == system && handler.event == event && accepts handler.filters parameters

end Handler

structure ObjectModel where
  states : List StateDef := []
  handlers : List Handler := []
  oneEventPerFrame : Bool := false
  triggerableByOthers : Bool := true
  through : Bool := false

namespace ObjectModel

instance : Inhabited ObjectModel := ⟨{}⟩

def state? (model : ObjectModel) (id : Nat) : Option StateDef :=
  model.states.find? (·.id == id)

def hasState (model : ObjectModel) (id : Nat) : Bool :=
  (model.state? id).isSome

def defaultStates (model : ObjectModel) : List Nat :=
  (model.states.head?.map (·.id)).toList

def reactionsFor (model : ObjectModel) (system : Bool) (event state : Nat)
    (parameters : List Value) : List Reaction :=
  (model.handlers.filter (·.answers system event parameters)).filterMap (·.reactions.get? state)

end ObjectModel

end TileScript
