import TileScript.Object.Basic

namespace TileScript

structure PlacedObject where
  id : Nat
  name : String
  position : Position
  orientation : Orientation
  initialStates : List Nat
  model : ObjectModel

structure MapDef where
  id : Nat
  name : String
  extent : Extent
  heroStart : Position
  heroOrientation : Orientation
  objects : List PlacedObject

structure Database where
  commons : IdMap Reaction
  maps : IdMap MapDef
  hero : ObjectModel

structure World where
  map : Option Nat := none
  objects : IdMap MapObject := ∅
  pendingRemovals : List Nat := []
  vars : IdMap Value := ∅
  hero : Option Nat := none
  extent : Option Extent := none
  content : Option Database := none

namespace World

instance : Inhabited World := ⟨{}⟩

def object? (world : World) (id : Nat) : Option MapObject := world.objects.get? id

def insertObject (world : World) (object : MapObject) : World :=
  { world with objects := world.objects.insert object.id object }

def modifyObject (world : World) (id : Nat) (change : MapObject → MapObject) : World :=
  { world with objects := world.objects.modify id change }

def objectsAt (world : World) (position : Position) : List Nat :=
  (world.objects.values.filter (fun object => !object.removed && object.position == position)).map
    (·.id)

def heroOrDefault (world : World) : Nat := world.hero.getD heroId

def heroObject? (world : World) : Option MapObject := world.hero.bind world.object?

def inBounds (world : World) (position : Position) : Bool :=
  match world.extent with
  | some extent => extent.contains position
  | none => true

/-- Whether an object may step onto a tile: it lies on the map and carries no other solid object. -/
def isPassable (world : World) (position : Position) (mover : Nat) : Bool :=
  world.inBounds position &&
    world.objects.values.all (fun object =>
      object.id == mover || object.removed || object.model.through || object.position != position)

def removeObject (world : World) (id : Nat) : World :=
  if (world.object? id).isSome then
    { world.modifyObject id (fun object => { object with removed := true }) with
      pendingRemovals := world.pendingRemovals ++ [id] }
  else world

def applyPending (world : World) : World :=
  { world with
    objects := world.pendingRemovals.foldl IdMap.erase world.objects
    pendingRemovals := [] }

def endFrame (world : World) : World :=
  { world with
    objects := world.objects.mapValues (fun object => { object with receivedEvent := false })
  }.applyPending

def valueOf (world : World) (id : Nat) : Value := (world.vars.get? id).getD default

def setVariable (world : World) (id : Nat) (value : Value) : World :=
  { world with vars := world.vars.insert id value }

def common? (world : World) (id : Nat) : Option Reaction :=
  world.content.bind (·.commons.get? id)

def clear (world : World) : World :=
  { vars := world.vars, content := world.content }

end World

end TileScript
