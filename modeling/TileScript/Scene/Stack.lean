import TileScript.Scene.MapScene

namespace TileScript

mutual

inductive Scene where
  | map (scene : MapScene)
  | scripted (name : String) (cues : List SceneChange)

inductive SceneChange where
  | stay
  | pop
  | push (scene : Scene)
  | replace (scene : Scene)

end

namespace Scene

def name : Scene → String
  | map scene => scene.name
  | scripted name _ => name

def note (scene : Scene) (hook : String) : List String :=
  match scene with
  | map _ => []
  | scripted name _ => [name ++ ":" ++ hook]

def load (scene : Scene) (world : World) : World :=
  match scene with
  | map scene => scene.load world
  | scripted _ _ => world

/-- A scripted scene counts its ticks in variable 1; anything but a number counts as zero. -/
def countTick (world : World) : World :=
  world.setVariable 1 (.number (((world.valueOf 1).number?).getD 0 + 1))

def update (scene : Scene) (input : InputSnapshot) (world : World) : SceneChange × Scene × World :=
  match scene with
  | map scene =>
    let updated := scene.update input world
    ((updated.1.map (fun request => .replace (.map (.entering request)))).getD .stay,
      .map updated.2.1, updated.2.2)
  | scripted name cues =>
    (cues.headD .stay, .scripted name cues.tail, countTick world)

def listen (scene : Scene) (event : InputEvent) (world : World) : Scene × World :=
  match scene with
  | map scene =>
    let heard := scene.listen event world
    (.map heard.1, heard.2)
  | scripted _ _ => (scene, world)

def draw : Scene → List String
  | map scene => scene.draw
  | scripted name _ => [name]

def close (scene : Scene) (world : World) : World :=
  match scene with
  | map scene => scene.close world
  | scripted _ _ => world

def counts : Scene → Nat × Nat
  | map scene => (scene.scheduler.blocking.length, scene.scheduler.parallel.length)
  | scripted _ _ => (0, 0)

def takeDiagnostics : Scene → List Diagnostic × Scene
  | map scene => (scene.diagnostics, .map { scene with diagnostics := [] })
  | scripted name cues => ([], .scripted name cues)

end Scene

structure Layer where
  scene : Scene
  world : World

structure SceneStack where
  layers : List Layer := []
  content : Option Database := none
  /-- The variables while no scene is there to hold them. -/
  carried : IdMap Value := ∅
  notes : List String := []

namespace SceneStack

def vars (stack : SceneStack) : IdMap Value :=
  match stack.layers with
  | top :: _ => top.world.vars
  | [] => stack.carried

def push (stack : SceneStack) (scene : Scene) : SceneStack :=
  let world := scene.load { vars := stack.vars, content := stack.content }
  let below :=
    match stack.layers with
    | top :: rest => { top with world := { top.world with vars := ∅ } } :: rest
    | [] => []
  { stack with
    layers := ⟨scene, world.applyPending⟩ :: below
    carried := if stack.layers.isEmpty then ∅ else stack.carried
    notes := stack.notes ++ scene.note "load" }

def pop (stack : SceneStack) : SceneStack :=
  match stack.layers with
  | [] => stack
  | top :: rest =>
    let vars := (top.scene.close top.world).vars
    let noted := stack.notes ++ top.scene.note "close"
    match rest with
    | below :: others =>
      { stack with
        layers := { below with world := { below.world with vars := vars } } :: others
        notes := noted }
    | [] => { stack with layers := [], carried := vars, notes := noted }

def replace (stack : SceneStack) (scene : Scene) : SceneStack := stack.pop.push scene

def popMany : Nat → SceneStack → SceneStack
  | 0, stack => stack
  | count + 1, stack => popMany count stack.pop

def popAll (stack : SceneStack) : SceneStack := popMany stack.layers.length stack

def apply (stack : SceneStack) : SceneChange → SceneStack
  | .stay => stack
  | .pop => stack.pop
  | .push scene => stack.push scene
  | .replace scene => stack.replace scene

def update (stack : SceneStack) (input : InputSnapshot) : SceneStack :=
  match stack.layers with
  | [] => stack
  | top :: rest =>
    let updated := top.scene.update input top.world
    { stack with
      layers := ⟨updated.2.1, updated.2.2⟩ :: rest
      notes := stack.notes ++ top.scene.note "update" }.apply updated.1

def listen (stack : SceneStack) (event : InputEvent) : SceneStack :=
  match stack.layers with
  | [] => stack
  | top :: rest =>
    let heard := top.scene.listen event top.world
    { stack with layers := ⟨heard.1, heard.2⟩ :: rest }

def draw (stack : SceneStack) : List String :=
  match stack.layers with
  | [] => []
  | top :: _ => top.scene.draw

def counts (stack : SceneStack) : Nat × Nat :=
  match stack.layers with
  | [] => (0, 0)
  | top :: _ => top.scene.counts

def takeDiagnostics (stack : SceneStack) : List Diagnostic × SceneStack :=
  match stack.layers with
  | [] => ([], stack)
  | top :: rest =>
    let taken := top.scene.takeDiagnostics
    (taken.1, { stack with layers := { top with scene := taken.2 } :: rest })

def topName? (stack : SceneStack) : Option String := stack.layers.head?.map (·.scene.name)

end SceneStack

end TileScript
