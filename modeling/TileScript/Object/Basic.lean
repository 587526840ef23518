import TileScript.Object.Clock

namespace TileScript

def heroId : Nat := 0

structure MapObject where
  id : Nat
  name : String
  position : Position
  orientation : Orientation
  /-- The active states; the first is the current one. -/
  states : List Nat
  model : ObjectModel
  pauseCount : Nat
  receivedEvent : Bool
  removed : Bool
  clocks : List Clock

namespace MapObject

def create (id : Nat) (name : String) (position : Position) (model : ObjectModel) : MapObject where
  id := id
  name := name
  position := position
  orientation := .down
  states := model.defaultStates
  model := model
  pauseCount := 0
  receivedEvent := false
  removed := false
  clocks := model.clocks

def addState (object : MapObject) (state : Nat) : MapObject :=
  if object.states.contains state then object
  else { object with states := object.states ++ [state] }

def removeState (object : MapObject) (state : Nat) : MapObject :=
  { object with states := object.states.filter (· != state) }

def currentState? (object : MapObject) : Option StateDef :=
  object.states.head?.bind object.model.state?

def directionFix (object : MapObject) : Bool :=
  (object.currentState?.map (·.directionFix)).getD false

def route? (object : MapObject) : Option Reaction :=
  object.currentState?.bind (·.route)

def face (object : MapObject) (target : Position) : MapObject :=
  match Orientation.towards object.position target with
  | some orientation => { object with orientation := orientation }
  | none => object

def hold (object : MapObject) : MapObject :=
  { object with pauseCount := countUp object.pauseCount }

def release (object : MapObject) : MapObject :=
  { object with pauseCount := object.pauseCount - 1 }

def isPaused (object : MapObject) : Bool := 0 < object.pauseCount

def advanceClocks (object : MapObject) : MapObject :=
  { object with clocks := object.clocks.map Clock.advance }

def fireClocks (object : MapObject) (indices : List Nat) : MapObject :=
  { object with clocks := Clock.fireAll object.clocks indices }

end MapObject

end TileScript
