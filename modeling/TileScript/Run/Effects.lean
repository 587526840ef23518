import TileScript.World

namespace TileScript

structure Trigger where
  sender : Option Nat := none
  object : Option Nat := none
  state : Option Nat := none
  event : Option Nat := none
  parameters : List Value := []

inductive EventTarget where
  | allExcept (excluded : Option Nat)
  | object (id : Nat)
  deriving DecidableEq

structure EventRequest where
  sender : Option Nat
  target : EventTarget
  system : Bool
  event : Nat
  parameters : List Value

structure SceneRequest where
  map : Nat
  position : Position
  orientation : Option Orientation
  deriving DecidableEq

structure Diagnostic where
  reaction : String
  object : Option Nat
  node : Nat
  command : String
  failure : Failure

def Diagnostic.text (diagnostic : Diagnostic) : String :=
  let bound :=
    match diagnostic.object with
    | some object => s!", object={object}"
    | none => ""
  s!"{diagnostic.failure.message} (reaction={diagnostic.reaction}{bound}, " ++
    s!"command={diagnostic.command} #{diagnostic.node})"

structure Fork where
  reaction : Reaction
  trigger : Trigger
  node : Nat

structure Effects where
  forks : List Fork := []
  events : List EventRequest := []
  scene : Option SceneRequest := none
  diagnostics : List Diagnostic := []
  notes : List String := []

namespace Effects

def fork (effects : Effects) (fork : Fork) : Effects :=
  { effects with forks := effects.forks ++ [fork] }

def queue (effects : Effects) (request : EventRequest) : Effects :=
  { effects with events := effects.events ++ [request] }

/-- Asks for another map; only the first request counts. -/
def requestScene (effects : Effects) (request : SceneRequest) : Effects :=
  match effects.scene with
  | some _ => effects
  | none => { effects with scene := some request }

def report (effects : Effects) (diagnostic : Diagnostic) : Effects :=
  { effects with diagnostics := effects.diagnostics ++ [diagnostic] }

def note (effects : Effects) (note : String) : Effects :=
  { effects with notes := effects.notes ++ [note] }

end Effects

structure Stage where
  world : World
  effects : Effects := {}

end TileScript
