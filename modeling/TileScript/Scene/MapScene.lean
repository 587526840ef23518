import TileScript.Input.Collector
import TileScript.Language.Standard
import TileScript.Scheduler.Pass

namespace TileScript

def heroStepTicks : Nat := 4

structure MapScene where
  map : Nat
  entry : Option (Position × Option Orientation) := none
  scheduler : Scheduler Activity := {}
  diagnostics : List Diagnostic := []
  stepCooldown : Nat := 0

namespace MapScene

def entering (request : SceneRequest) : MapScene where
  map := request.map
  entry := some (request.position, request.orientation)

def name (scene : MapScene) : String :=
  let digits := toString scene.map
  "map_" ++ String.ofList (List.replicate (4 - digits.length) '0') ++ digits

def place (placed : PlacedObject) : MapObject :=
  { MapObject.create placed.id placed.name placed.position placed.model with
    orientation := placed.orientation
    states := placed.initialStates }

def load (scene : MapScene) (world : World) : World :=
  match world.content.bind (fun content => (content.maps.get? scene.map).map (content, ·)) with
  | none => world
  | some (content, map) =>
    let sized := { world with map := some map.id, extent := some map.extent }
    let populated := (map.objects.map place).foldl World.insertObject sized
    let (position, orientation) :=
      match scene.entry with
      | some (position, orientation) => (position, orientation.getD map.heroOrientation)
      | none => (map.heroStart, map.heroOrientation)
    let hero := { MapObject.create heroId "Hero" position content.hero with
      orientation := orientation }
    { populated.insertObject hero with hero := some heroId }

/-- Delivers the time events of an object's due clocks in order, up to the first that starts
nothing; answers with the positions of the clocks before it. -/
def fireDue (id : Nat) : List (Nat × List Value) → Scheduler Activity → World →
    List Nat × Scheduler Activity × World
  | [], scheduler, world => ([], scheduler, world)
  | (index, parameters) :: rest, scheduler, world =>
    let received := scheduler.receive world ⟨some id, id, true, timeEvent, parameters⟩
    if received.1 then
      let others := fireDue id rest received.2.1 received.2.2
      (index :: others.1, others.2)
    else ([], received.2)

/-- A tick passes on the clocks of an object, and those that are due raise their events. A clock
that started nothing stays due. -/
def tickClocks (scheduler : Scheduler Activity) (world : World) (id : Nat) :
    Scheduler Activity × World :=
  match world.object? id with
  | none => (scheduler, world)
  | some object =>
    if object.removed then (scheduler, world)
    else
      let advanced := world.modifyObject id MapObject.advanceClocks
      let due := Clock.due object.advanceClocks.clocks
      let fired := fireDue id due scheduler advanced
      (fired.2.1, fired.2.2.modifyObject id (·.fireClocks fired.1))

def fireTimeEvents (scheduler : Scheduler Activity) (world : World) : Scheduler Activity × World :=
  world.objects.ids.foldl (fun state id => tickClocks state.1 state.2 id) (scheduler, world)

/-- Starts the movement route of an object's current state unless it runs already; a paused object
does not set out. -/
def startRoute (scheduler : Scheduler Activity) (world : World) (id : Nat) :
    Scheduler Activity × World :=
  match world.object? id with
  | none => (scheduler, world)
  | some object =>
    if object.removed || object.isPaused then (scheduler, world)
    else
      match object.route? with
      | none => (scheduler, world)
      | some route =>
        (scheduler.add? world route { object := some id } true).getD (scheduler, world)

def startRoutes (scheduler : Scheduler Activity) (world : World) : Scheduler Activity × World :=
  world.objects.ids.foldl (fun state id => startRoute state.1 state.2 id) (scheduler, world)

def moveKey : Orientation → InputKey
  | .up => .up
  | .down => .down
  | .left => .left
  | .right => .right

def heldDirection? (input : InputSnapshot) : Option Orientation :=
  Orientation.all.find? (fun direction => input.isDown (moveKey direction))

/-- Walks the hero in the held direction: turns unless the direction is fixed, steps if the tile is
passable, and then rests. -/
def moveHero (cooldown : Nat) (input : InputSnapshot) (world : World) : Nat × World :=
  if 0 < cooldown then (cooldown - 1, world)
  else
    match heldDirection? input, world.hero with
    | some direction, some id =>
      match world.object? id with
      | none => (cooldown, world)
      | some hero =>
        let target := hero.position.step direction
        let passable := world.isPassable target id
        (if passable then heroStepTicks - 1 else cooldown,
          world.modifyObject id (fun hero =>
            { hero with
              orientation := if hero.directionFix then hero.orientation else direction
              position := if passable then target else hero.position }))
    | _, _ => (cooldown, world)

/-- The objects the hero acts on: those on the tile in front, failing that those on the own tile. -/
def actionTargets (world : World) (hero : MapObject) : List Nat :=
  let others (position : Position) := (world.objectsAt position).filter (· != hero.id)
  let front := others (hero.position.step hero.orientation)
  if front.isEmpty then others hero.position else front

def heroAction (scheduler : Scheduler Activity) (world : World) : Scheduler Activity × World :=
  match world.heroObject? with
  | none => (scheduler, world)
  | some hero =>
    (actionTargets world hero).foldl
      (fun state target =>
        (state.1.receive state.2 ⟨some hero.id, target, true, actionEvent, []⟩).2)
      (scheduler, world)

def update (scene : MapScene) (input : InputSnapshot) (world : World) :
    Option SceneRequest × MapScene × World :=
  let timed := fireTimeEvents scene.scheduler world
  let routed := startRoutes timed.1 timed.2
  let passed := routed.1.update .standard routed.2
  let collected := { scene with
    scheduler := { passed.2.1 with diagnostics := [], notes := [] }
    diagnostics := scene.diagnostics ++ passed.2.1.diagnostics }
  match passed.1 with
  | some request => (some request, collected, passed.2.2.endFrame)
  | none =>
    if passed.2.1.blocksHero then (none, collected, passed.2.2.endFrame)
    else
      let moved := moveHero scene.stepCooldown input passed.2.2
      (none, { collected with stepCooldown := moved.1 }, moved.2.endFrame)

def listen (scene : MapScene) (event : InputEvent) (world : World) : MapScene × World :=
  let heard := scene.scheduler.listen .standard event
  if event.isPress .action && !heard.blocksHero then
    let acted := heroAction heard world
    ({ scene with scheduler := acted.1 }, acted.2)
  else ({ scene with scheduler := heard }, world)

def draw (scene : MapScene) : List String := scene.scheduler.draw .standard

def close (scene : MapScene) (world : World) : World :=
  (scene.scheduler.close world).2.clear

end MapScene

end TileScript
