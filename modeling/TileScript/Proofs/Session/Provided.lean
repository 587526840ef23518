import TileScript.Proofs.Run.Vetted
import TileScript.Proofs.Session.History

namespace TileScript

open Scheduler (Upheld Sound)

variable {scope : Scope} {content : Database} {map : MapDef}

theorem Run.vetted_upheld (compiled : content.Compiled scope) (map : MapDef) :
    Upheld .standard (Run.Vetted scope) (Stage.Vetted scope content map) where
  ticked _ _ vetted sound := Run.Vetted.tick compiled vetted sound
  heard _ event vetted := vetted.listen event
  forked _ sound fork asks := .of_idle (sound.forks fork asks) rfl
  started _ _ _ _ _ sound declares := .of_idle (sound.declared declares) rfl
  recast _ _ sound same _ := sound.recast same.toSameCast
  cleared _ sound := sound.cleared

/-- The world a map of the content is entered with. -/
theorem MapScene.entered_vetted (compiled : content.Compiled scope) (scene : MapScene)
    (found : content.maps.get? scene.map = some map) (vars : IdMap Value) :
    Stage.Vetted scope content map ⟨scene.entered content vars, {}⟩ where
  toScripted := scene.entered_scripted found vars (fun _ => compiled.of_plays)
  known _ recorded := nomatch recorded

/-- What the compiler has checked is upheld by everything that happens on the maps of the content. -/
theorem Database.Compiled.upholds (compiled : content.Compiled scope) :
    content.Upholds (Run.Vetted scope) (Stage.Vetted scope content) where
  upheld map := Run.vetted_upheld compiled map
  begun _ _ found vars := MapScene.entered_vetted compiled _ found vars
  asked _ _ request vetted asks := by
    obtain ⟨next, found⟩ := compiled.maps request.map (vetted.asked asks)
    exact ⟨next, found, fun vars => MapScene.entered_vetted compiled _ found vars⟩

structure World.Shows (map : MapDef) (world : World) : Prop where
  named : world.map = some map.id
  sized : world.extent = some map.extent
  led : world.hero = some heroId

theorem Stage.Vetted.shows {stage : Stage} (vetted : stage.Vetted scope content map) :
    stage.world.Shows map where
  named := congrArg (·.1) vetted.setting
  sized := congrArg (·.2.1) vetted.setting
  led := congrArg (·.2.2.1) vetted.setting

namespace SceneStack

def Vetted (scope : Scope) (content : Database) (stack : SceneStack) : Prop :=
  stack.content = some content ∧ ∃ scene world map, stack.layers = [⟨.map scene, world⟩] ∧
    content.maps.get? scene.map = some map ∧
    Sound (Run.Vetted scope) (Stage.Vetted scope content map) scene.scheduler world

def Shows (content : Database) (id : Nat) (stack : SceneStack) : Prop :=
  ∃ scene world map, stack.layers = [⟨.map scene, world⟩] ∧ scene.map = id ∧
    content.maps.get? id = some map ∧ map.id = id ∧ world.Shows map

theorem Vetted.shows (compiled : content.Compiled scope) {stack : SceneStack}
    (vetted : Vetted scope content stack) : ∃ id, Shows content id stack := by
  obtain ⟨_, scene, world, map, layers, found, sound⟩ := vetted
  exact ⟨scene.map, scene, world, map, layers, rfl, found, compiled.mapIds _ _ found,
    sound.stage.shows⟩

theorem Vetted.listenAll (compiled : content.Compiled scope) {stack : SceneStack}
    (vetted : Vetted scope content stack) (events : List InputEvent) :
    Vetted scope content (events.foldl SceneStack.listen stack) :=
  Stages.listenAll compiled.upholds vetted events

/-- A tick of compiled content leads to compiled content. -/
theorem Vetted.update (compiled : content.Compiled scope) {stack : SceneStack}
    (vetted : Vetted scope content stack) (input : InputSnapshot) :
    Vetted scope content (stack.update input).takeDiagnostics.2 ∧
      (∀ turn ∈ stack.turns, Run.Vetted scope turn.1 ∧
        ∃ map, Stage.Vetted scope content map turn.2) ∧
      ∀ request, stack.request? input = some request →
        Shows content request.map (stack.update input).takeDiagnostics.2 ∧
          ∀ layer ∈ (stack.update input).takeDiagnostics.2.layers,
            layer.world.heroObject?.isSome = true := by
  obtain ⟨stages, turns, asks⟩ := Stages.update compiled.upholds vetted input
  refine ⟨stages, turns, ?_⟩
  intro request requested
  obtain ⟨next, vars, there, shown⟩ := asks request requested
  have shows := (MapScene.entered_vetted compiled (.entering request) there vars).shows
  refine ⟨⟨_, _, next, shown, rfl, there, compiled.mapIds _ _ there, shows⟩, ?_⟩
  rw [shown]
  simpa using (MapScene.entering request).entered_hero there vars

end SceneStack

namespace Session

theorem history_vetted (compiled : content.Compiled scope) (limit : Nat) {session : Session}
    (vetted : session.stack.Vetted scope content) :
    ∀ later ∈ session.history limit, later.stack.Vetted scope content :=
  history_stages compiled.upholds limit vetted

theorem start_vetted (compiled : content.Compiled scope) {config : SessionConfig}
    (known : content.maps.contains config.startMap = true) :
    (Session.start content config).stack.Vetted scope content :=
  start_stages compiled.upholds known

end Session

/-- What a vetted run records on its turn, and what its commands find. -/
theorem Run.Vetted.turn (compiled : content.Compiled scope) {turn : Run Activity × Stage}
    (vetted : Run.Vetted scope turn.1) (sound : Stage.Vetted scope content map turn.2) :
    (∀ diagnostic ∈ Run.reported .standard turn, ∀ id, diagnostic.failure ≠ .missingCommon id) ∧
      ∀ context command activity,
        Run.Performs turn.2 maxCallDepth turn.1 context command activity →
        Run.Founded context command activity := by
  constructor
  · intro diagnostic member
    have after : (turn.1.tick (.within .inert maxCallDepth) turn.2).2.Vetted scope content map :=
      (Run.Vetted.tick compiled vetted sound).2
    exact after.known diagnostic (List.mem_of_mem_drop member)
  · intro context command activity performs
    exact performs.founded compiled vetted sound

/--
In every tick of a session on compiled content, one map of the content is in play and shown with the
hero set; no run records that a shared reaction is missing, every break that is performed finds its
loop and every menu the branch of the picked entry; and a map that is asked for is one of the content
and shown from then on.
-/
theorem compiled_content_suffices {commons : Source} {maps : List Source} {content : Database}
    (compiled : Content.compile commons maps = .ok content) (config : SessionConfig)
    (known : content.maps.contains config.startMap = true) :
    (∀ limit, ∀ session ∈ (Session.start content config).history limit,
      (∃ id, session.stack.Shows content id) ∧
      (∀ turn ∈ session.turns,
        (∀ diagnostic ∈ Run.reported .standard turn,
          ∀ id, diagnostic.failure ≠ .missingCommon id) ∧
        ∀ context command activity,
          Run.Performs turn.2 maxCallDepth turn.1 context command activity →
          Run.Founded context command activity) ∧
      ∀ request, session.request? = some request →
        content.maps.contains request.map = true ∧
        session.played.stack.Shows content request.map ∧
        ∀ layer ∈ session.played.stack.layers, layer.world.heroObject?.isSome = true) ∧
    ∀ summary, runSession content config = .ok summary →
      ∀ diagnostic ∈ summary.diagnostics, ∀ id, diagnostic.failure ≠ .missingCommon id := by
  obtain ⟨scope, compiled⟩ := Content.compile_compiled compiled
  have vetted (limit : Nat) := Session.history_vetted compiled limit
    (Session.start_vetted compiled known)
  have ticks (limit : Nat) (session : Session)
      (member : session ∈ (Session.start content config).history limit) :=
    ((vetted limit session member).listenAll compiled session.feed.input.drain.1).update compiled
      session.feed.input.drain.2.1
  constructor
  · intro limit session member
    obtain ⟨_, turned, asks⟩ := ticks limit session member
    refine ⟨(vetted limit session member).shows compiled, ?_, ?_⟩
    · intro turn member
      obtain ⟨run, map, stage⟩ := turned turn member
      exact run.turn compiled stage
    · intro request requested
      obtain ⟨shows, hero⟩ := asks request requested
      refine ⟨?_, shows, hero⟩
      obtain ⟨_, _, map, _, _, found, _⟩ := shows
      exact (IdMap.contains_iff _ _).mpr ⟨map, found⟩
  · intro summary ran diagnostic handed
    obtain ⟨limit, session, member, turn, turned, recorded⟩ := Session.mem_diagnostics ran handed
    obtain ⟨_, turns, _⟩ := ticks limit session member
    obtain ⟨run, map, stage⟩ := turns turn turned
    exact (run.turn compiled stage).1 diagnostic recorded

def errands : Source where
  path := "commons.json"
  text := "[\x7b\"name\":\"Hero\",\"states\":[[1]]\x7d,[[1,\"errand\",false," ++
    "[\x7b\"kind\":\"teleport\",\"map_id\":2,\"x\":0,\"y\":0\x7d]]]]"

def homeMap : Source where
  path := "home.json"
  text := "[1,\"Home\",2,1,[1,0],\"up\",[\x7b\"id\":1,\"name\":\"Courier\"," ++
    "\"states\":[[1,false,[\x7b\"kind\":\"call_common\",\"id\":1\x7d]]]\x7d]]"

def awayMap : Source where
  path := "away.json"
  text := "[2,\"Away\",1,1,[0,0]]"

theorem courier_sends_away :
    ∃ content, Content.compile errands [homeMap, awayMap] = .ok content ∧
      ((Session.start content {}).history 2).map (fun session => session.request?.map (·.map)) =
        [some 2, none] ∧
      ∀ session ∈ (Session.start content {}).history 2, ∃ id, session.stack.Shows content id := by
  have played : (Content.compile errands [homeMap, awayMap]).toOption.map (fun content =>
      (content.maps.contains 1, ((Session.start content {}).history 2).map (fun session =>
        session.request?.map (·.map)))) = some (true, [some 2, none]) := by
    decide +kernel
  cases compiled : Content.compile errands [homeMap, awayMap] with
  | error problem =>
    rw [compiled] at played
    cases played
  | ok content =>
    rw [compiled] at played
    obtain ⟨known, requests⟩ := Prod.mk.inj (Option.some.inj played)
    refine ⟨content, rfl, requests, fun session member => ?_⟩
    exact ((compiled_content_suffices compiled {} known).1 2 session member).1

end TileScript
