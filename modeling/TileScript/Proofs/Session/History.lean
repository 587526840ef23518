import TileScript.Proofs.Run.Scripted
import TileScript.Proofs.Scheduler.Invariants
import TileScript.Proofs.Session.Diagnostics

namespace TileScript

open Scheduler (Upheld Sound)
open World (Keeps SameGround)

variable {content : Database} {fits : Run Activity → Prop} {holds : MapDef → Stage → Prop}

def MapScene.entered (scene : MapScene) (content : Database) (vars : IdMap Value) : World :=
  (scene.load { vars := vars, content := some content }).applyPending

structure Database.Upholds (content : Database) (fits : Run Activity → Prop)
    (holds : MapDef → Stage → Prop) : Prop where
  upheld : ∀ map, Upheld .standard fits (holds map)
  begun : ∀ id map, content.maps.get? id = some map →
    ∀ vars, holds map ⟨MapScene.entered { map := id } content vars, {}⟩
  asked : ∀ map stage request, holds map stage → stage.effects.scene = some request →
    ∃ next, content.maps.get? request.map = some next ∧
      ∀ vars, holds next ⟨(MapScene.entering request).entered content vars, {}⟩

/-- Something is kept if it is about a stage where all scripts are those of the content, and what
these scripts say, and what happens between their turns, keeps it. -/
theorem Run.Scripted.upheld {map : MapDef} {holds : Stage → Prop}
    (scripted : ∀ stage, holds stage → stage.Scripted content.Plays content map)
    (follows : ∀ stage after, holds stage → Run.Follows content.Plays stage after → holds after)
    (recast : ∀ stage world, holds stage → SameGround stage.world world →
      Keeps MapObject.states stage.world world → holds { stage with world := world })
    (cleared : ∀ stage, holds stage → holds ⟨stage.world, {}⟩) :
    Upheld .standard (Run.Scripted content.Plays) holds where
  ticked run stage plays held := by
    have shared := (scripted stage held).shared (fun _ plays => plays)
    exact ⟨(plays.tick shared).1, follows stage _ held (plays.tick shared).2⟩
  heard _ event plays := plays.listen event
  forked stage held fork asks := .of_idle ((scripted stage held).forks fork asks) rfl
  started stage _ _ _ _ held declares := .of_idle ((scripted stage held).declared declares) rfl
  recast := recast
  cleared := cleared

namespace MapScene

section Entered

variable (scene : MapScene) {map : MapDef} (found : content.maps.get? scene.map = some map)
  (vars : IdMap Value)

include found

/-- A map is entered with the objects it places and the hero, and with nothing else. -/
theorem entered_eq :
    ∃ (known : IdMap MapObject) (hero : MapObject), hero.id = heroId ∧ hero.model = content.hero ∧
      hero.position = (scene.entry.map (·.1)).getD map.heroStart ∧
      hero.states = content.hero.defaultStates ∧
      (∀ id object, known.get? id = some object → ∃ placed ∈ map.objects, object = place placed) ∧
      scene.entered content vars =
        { vars := vars, content := some content, map := some map.id, extent := some map.extent,
          hero := some heroId, objects := known.insert hero.id hero } := by
  let sized : World :=
    { vars := vars, content := some content, map := some map.id, extent := some map.extent }
  obtain ⟨known, populated⟩ := World.foldl_insertObject (map.objects.map place) sized
  have placed : ∀ id object, known.get? id = some object →
      ∃ placed ∈ map.objects, object = place placed := by
    intro id object present
    have listed : ((map.objects.map place).foldl World.insertObject sized).object? id =
        some object := by
      rw [populated]
      exact present
    rcases World.object?_foldl_insertObject listed with member | none
    · obtain ⟨declared, member, same⟩ := List.mem_map.mp member
      exact ⟨declared, member, same.symm⟩
    · cases none
  unfold entered load
  simp only [Option.bind_some, found, Option.map_some, populated, sized]
  cases scene.entry with
  | none => exact ⟨known, _, rfl, rfl, rfl, rfl, placed, rfl⟩
  | some entry => exact ⟨known, _, rfl, rfl, rfl, rfl, placed, rfl⟩

theorem entered_setting :
    (scene.entered content vars).setting =
      (some map.id, some map.extent, some heroId, some content) := by
  obtain ⟨known, hero, _, _, _, _, _, entered⟩ := scene.entered_eq found vars
  rw [entered]
  rfl

theorem entered_hero : (scene.entered content vars).heroObject?.isSome = true := by
  obtain ⟨known, hero, named, _, _, _, _, entered⟩ := scene.entered_eq found vars
  rw [entered]
  have present := IdMap.get?_insert known hero.id heroId hero
  rw [if_pos named.symm] at present
  exact Option.isSome_iff_exists.mpr ⟨hero, present⟩

theorem entered_objects {id : Nat} {object : MapObject}
    (present : (scene.entered content vars).object? id = some object) :
    (id = heroId ∧ object.model = content.hero ∧
      object.position = (scene.entry.map (·.1)).getD map.heroStart ∧
      object.states = content.hero.defaultStates) ∨
    ∃ placed ∈ map.objects, object = place placed := by
  obtain ⟨known, hero, named, cast, stands, active, placed, entered⟩ := scene.entered_eq found vars
  rw [entered] at present
  have inserted := (IdMap.get?_insert known hero.id id hero).symm.trans present
  split at inserted
  · rename_i same
    cases inserted
    exact .inl ⟨same.trans named, cast, stands, active⟩
  · exact .inr (placed id object inserted)

/-- All scripts on a map that is entered are scripts of the content. -/
theorem entered_scripted {scripts : Reaction → Prop}
    (all : ∀ reaction, content.Plays reaction → scripts reaction) :
    Stage.Scripted scripts content map ⟨scene.entered content vars, {}⟩ where
  setting := scene.entered_setting found vars
  models id object present reaction plays := by
    apply all
    rcases scene.entered_objects found vars present with ⟨_, hero, _⟩ | ⟨placed, member, rfl⟩
    · rw [hero] at plays
      exact .hero plays
    · exact .placed scene.map map found placed member plays
  forks _ asks := nomatch asks
  scene _ asks := nomatch asks

end Entered

theorem listen_map (scene : MapScene) (event : InputEvent) (world : World) :
    (scene.listen event world).1.map = scene.map := by
  unfold listen
  dsimp only
  split <;> rfl

theorem update_map (scene : MapScene) (input : InputSnapshot) (world : World) :
    (scene.update input world).2.1.map = scene.map := by
  unfold update
  dsimp only
  split
  · rfl
  · split <;> rfl

end MapScene

namespace SceneStack

def Stages (content : Database) (fits : Run Activity → Prop) (holds : MapDef → Stage → Prop)
    (stack : SceneStack) : Prop :=
  stack.content = some content ∧ ∃ scene world map, stack.layers = [⟨.map scene, world⟩] ∧
    content.maps.get? scene.map = some map ∧ Sound fits (holds map) scene.scheduler world

def turns (stack : SceneStack) : List (Run Activity × Stage) :=
  match stack.layers with
  | ⟨.map scene, world⟩ :: _ => scene.turns world
  | _ => []

def request? (stack : SceneStack) (input : InputSnapshot) : Option SceneRequest :=
  match stack.layers with
  | ⟨.map scene, world⟩ :: _ => (scene.update input world).1
  | _ => none

theorem push_layers {stack : SceneStack} (known : stack.content = some content)
    (empty : stack.layers = []) (scene : MapScene) :
    (stack.push (.map scene)).layers = [⟨.map scene, scene.entered content stack.vars⟩] := by
  simp [push, empty, known, Scene.load, MapScene.entered]

theorem Stages.push {stack : SceneStack} (known : stack.content = some content)
    (empty : stack.layers = []) {scene : MapScene} {map : MapDef}
    (found : content.maps.get? scene.map = some map) (idle : scene.scheduler.runs = [])
    (begins : ∀ vars, holds map ⟨scene.entered content vars, {}⟩) :
    Stages content fits holds (stack.push (.map scene)) := by
  refine ⟨known, scene, _, map, push_layers known empty scene, found, ?_, begins stack.vars⟩
  rw [idle]
  simp

theorem Stages.listen (upholds : content.Upholds fits holds) {stack : SceneStack}
    (stages : Stages content fits holds stack) (event : InputEvent) :
    Stages content fits holds (stack.listen event) := by
  obtain ⟨known, scene, world, map, layers, found, sound⟩ := stages
  have heard := MapScene.listen_sound (upholds.upheld map) sound event
  refine ⟨?_, (scene.listen event world).1, (scene.listen event world).2, map, ?_, ?_, heard⟩
  · simp only [SceneStack.listen, layers]
    exact known
  · simp only [SceneStack.listen, layers]
    rfl
  · rw [scene.listen_map event world]
    exact found

theorem Stages.listenAll (upholds : content.Upholds fits holds) {stack : SceneStack}
    (stages : Stages content fits holds stack) (events : List InputEvent) :
    Stages content fits holds (events.foldl SceneStack.listen stack) := by
  induction events generalizing stack with
  | nil => exact stages
  | cons event events ih => exact ih (stages.listen upholds event)

/-- A tick keeps what is upheld, and the map that it asks for is entered as one of the content. -/
theorem Stages.update (upholds : content.Upholds fits holds) {stack : SceneStack}
    (stages : Stages content fits holds stack) (input : InputSnapshot) :
    Stages content fits holds (stack.update input).takeDiagnostics.2 ∧
      (∀ turn ∈ stack.turns, fits turn.1 ∧ ∃ map, holds map turn.2) ∧
      ∀ request, stack.request? input = some request →
        ∃ next vars, content.maps.get? request.map = some next ∧
          (stack.update input).takeDiagnostics.2.layers =
            [⟨.map (.entering request), (MapScene.entering request).entered content vars⟩] := by
  obtain ⟨known, scene, world, map, layers, found, sound⟩ := stages
  obtain ⟨updated, turned, asks⟩ := MapScene.update_sound (upholds.upheld map) sound input
  have turns : ∀ turn ∈ stack.turns, fits turn.1 ∧ ∃ map, holds map turn.2 := by
    intro turn member
    simp only [SceneStack.turns, layers] at member
    obtain ⟨run, stage⟩ := turned turn member
    exact ⟨run, map, stage⟩
  have asked : stack.request? input = (scene.update input world).1 := by
    simp only [request?, layers]
  cases leaves : (scene.update input world).1 with
  | none =>
    have stays : (stack.update input).takeDiagnostics.2.layers =
        [⟨.map { (scene.update input world).2.1 with diagnostics := [] },
          (scene.update input world).2.2⟩] := by
      simp [SceneStack.update, layers, Scene.update, leaves, apply, takeDiagnostics,
        Scene.takeDiagnostics]
    have still : (stack.update input).takeDiagnostics.2.content = stack.content := by
      simp [SceneStack.update, layers, Scene.update, leaves, apply, takeDiagnostics]
    have here : content.maps.get? (scene.update input world).2.1.map = some map := by
      rw [scene.update_map input world]
      exact found
    refine ⟨⟨still.trans known, _, _, map, stays, here, updated⟩, turns, ?_⟩
    intro request requested
    cases leaves.symm.trans (asked.symm.trans requested)
  | some request =>
    obtain ⟨stage, fine, requested⟩ := asks request leaves
    obtain ⟨next, there, begins⟩ := upholds.asked map stage request fine requested
    -- The scene that ran is taken off before the one in its place is put on.
    obtain ⟨popped, same, empty, replaced⟩ : ∃ popped : SceneStack,
        popped.content = stack.content ∧ popped.layers = [] ∧
        (stack.update input).takeDiagnostics.2 = popped.push (.map (.entering request)) := by
      refine ⟨{ stack with
        layers := [⟨.map (scene.update input world).2.1, (scene.update input world).2.2⟩]
        notes := stack.notes ++ (Scene.map scene).note "update" }.pop, rfl, rfl, ?_⟩
      simp only [SceneStack.update, layers, Scene.update, leaves, apply, Option.map_some,
        Option.getD_some]
      rfl
    have content_eq := same.trans known
    rw [replaced]
    refine ⟨.push content_eq empty there rfl begins, turns, ?_⟩
    intro other requested'
    cases leaves.symm.trans (asked.symm.trans requested')
    exact ⟨next, popped.vars, there, push_layers content_eq empty (.entering request)⟩

end SceneStack

namespace Session

def heard (session : Session) : SceneStack :=
  session.feed.input.drain.1.foldl SceneStack.listen session.stack

def turns (session : Session) : List (Run Activity × Stage) := session.heard.turns

def request? (session : Session) : Option SceneRequest :=
  session.heard.request? session.feed.input.drain.2.1

def history (limit : Nat) (session : Session) : List Session :=
  match _ticked : session.tick limit with
  | .ended after => if after.ticksRun = session.ticksRun then [] else [session]
  | .going after => session :: history limit after
termination_by limit - session.ticksRun
decreasing_by
  have moved := tick_going _ticked
  omega

theorem history_ended {limit : Nat} {session after : Session}
    (ticked : session.tick limit = .ended after) :
    session.history limit = if after.ticksRun = session.ticksRun then [] else [session] := by
  rw [history]
  split
  · rename_i last ended
    cases ticked.symm.trans ended
    rfl
  · rename_i going
    cases ticked.symm.trans going

theorem history_going {limit : Nat} {session after : Session}
    (ticked : session.tick limit = .going after) :
    session.history limit = session :: after.history limit := by
  rw [history]
  split
  · rename_i ended
    cases ticked.symm.trans ended
  · rename_i next going
    cases ticked.symm.trans going
    rfl

theorem ledger_eq_map_history (limit : Nat) (session : Session) :
    session.ledger limit = (session.history limit).map report := by
  induction rest : limit - session.ticksRun using Nat.strongRecOn generalizing session with
  | ind rest' ih =>
    cases ticked : session.tick limit with
    | ended after =>
      rw [ledger_ended ticked, history_ended ticked]
      split <;> rfl
    | going after =>
      have moved := tick_going ticked
      rw [ledger_going ticked, history_going ticked, List.map_cons,
        ih (limit - after.ticksRun) (by omega) after rfl]

theorem start_stages (upholds : content.Upholds fits holds) {config : SessionConfig}
    (known : content.maps.contains config.startMap = true) :
    (Session.start content config).stack.Stages content fits holds := by
  obtain ⟨map, found⟩ := (IdMap.contains_iff _ _).mp known
  exact SceneStack.Stages.push rfl rfl found rfl (upholds.begun config.startMap map found)

/-- All ticks of a session keep what is upheld. -/
theorem history_stages (upholds : content.Upholds fits holds) (limit : Nat) {session : Session}
    (stages : session.stack.Stages content fits holds) :
    ∀ later ∈ session.history limit, later.stack.Stages content fits holds := by
  induction rest : limit - session.ticksRun using Nat.strongRecOn generalizing session with
  | ind rest' ih =>
    cases ticked : session.tick limit with
    | ended after =>
      rw [history_ended ticked]
      split
      · simp
      · simpa using stages
    | going after =>
      have moved := tick_going ticked
      have played : after = session.played := by
        rw [tick_eq] at ticked
        split at ticked
        · cases ticked
        · split at ticked
          · cases ticked
          · split at ticked <;> cases ticked
            rfl
      rw [history_going ticked]
      refine List.forall_mem_cons.mpr ⟨stages, ih (limit - after.ticksRun) (by omega) ?_ rfl⟩
      rw [played]
      exact ((stages.listenAll upholds _).update upholds _).1

theorem report_recorded (session : Session) :
    session.report.recorded = session.turns.flatMap (Run.reported .standard) := by
  have stack (scenes : SceneStack) (input : InputSnapshot) :
      (scenes.report input).recorded = scenes.turns.flatMap (Run.reported .standard) := by
    obtain ⟨layers, _, _, _⟩ := scenes
    cases layers with
    | nil => rfl
    | cons layer rest =>
      obtain ⟨scene, world⟩ := layer
      cases scene <;> rfl
  exact stack session.heard session.feed.input.drain.2.1

/-- All that a session hands over was recorded on the turns of its ticks. -/
theorem mem_diagnostics {content : Database} {config : SessionConfig} {summary : Summary}
    (ran : runSession content config = .ok summary) {diagnostic : Diagnostic}
    (handed : diagnostic ∈ summary.diagnostics) :
    ∃ limit, ∃ session ∈ (Session.start content config).history limit, ∃ turn ∈ session.turns,
      diagnostic ∈ Run.reported .standard turn := by
  have collected (limit : Nat) (member : diagnostic ∈
      ((Session.start content config).runFrames limit config.maxTicksPerFrame).diagnostics.toList) :
      ∃ session ∈ (Session.start content config).history limit, ∃ turn ∈ session.turns,
        diagnostic ∈ Run.reported .standard turn := by
    rw [runFrames_collects limit _ (start_onMap content config), ledger_eq_map_history] at member
    rcases List.mem_append.mp member with early | late
    · cases early
    · obtain ⟨report, listed, kept⟩ := List.mem_flatMap.mp late
      obtain ⟨session, played, rfl⟩ := List.mem_map.mp listed
      unfold TickReport.collected at kept
      split at kept
      · cases kept
      · rw [report_recorded] at kept
        obtain ⟨turn, turned, reported⟩ := List.mem_flatMap.mp kept
        exact ⟨session, played, turn, turned, reported⟩
  unfold runSession at ran
  split at ran
  · split at ran
    · rename_i limit _
      cases ran
      exact ⟨limit, collected limit handed⟩
    · dsimp only at ran
      split at ran
      · cases ran
        exact ⟨_, collected _ handed⟩
      · cases ran
  · cases ran

end Session

end TileScript
