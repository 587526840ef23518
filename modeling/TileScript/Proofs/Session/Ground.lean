import TileScript.Proofs.Session.History

namespace TileScript

open Scheduler (Upheld)
open World (SameGround)

variable {scope : Scope} {content : Database} {map : MapDef} {stage : Stage}

def Database.Sends (content : Database) (map : Nat) (position : Position) : Prop :=
  ∃ reaction, content.Plays reaction ∧ reaction.Sends map position

/-- Every object stands on the map, or it is the hero where a teleport of the content leads. -/
def World.Grounded (content : Database) (map : MapDef) (world : World) : Prop :=
  ∀ id object, world.object? id = some object → map.extent.contains object.position = true ∨
    id = heroId ∧ content.Sends map.id object.position

structure Stage.Grounded (content : Database) (map : MapDef) (stage : Stage) : Prop
    extends Stage.Scripted content.Plays content map stage where
  stands : stage.world.Grounded content map

namespace Stage.Grounded

theorem map_eq (grounded : stage.Grounded content map) : stage.world.map = some map.id :=
  congrArg (·.1) grounded.setting

theorem inBounds_eq (grounded : stage.Grounded content map) (position : Position) :
    stage.world.inBounds position = map.extent.contains position := by
  have sized : stage.world.extent = some map.extent := congrArg (·.2.1) grounded.setting
  rw [World.inBounds, sized]

theorem heroOrDefault_eq (grounded : stage.Grounded content map) :
    stage.world.heroOrDefault = heroId := by
  have led : stage.world.hero = some heroId := congrArg (·.2.2.1) grounded.setting
  rw [World.heroOrDefault, led, Option.getD_some]

theorem recast (grounded : stage.Grounded content map) {world : World}
    (same : SameGround stage.world world) :
    Stage.Grounded content map { stage with world := world } where
  toScripted := grounded.toScripted.recast same.toSameCast
  stands id object present := by
    obtain ⟨earlier, found, still | within⟩ := same.stands id object present
    · rw [still]
      exact grounded.stands id earlier found
    · rw [grounded.inBounds_eq] at within
      exact .inl within

theorem cleared (grounded : stage.Grounded content map) :
    Stage.Grounded content map ⟨stage.world, {}⟩ where
  toScripted := grounded.toScripted.cleared
  stands := grounded.stands

/-- What a command of the content does leaves the objects on the map, but for a teleport. -/
theorem deed (grounded : stage.Grounded content map) {reaction : Reaction}
    (plays : content.Plays reaction) {node : Nat} {command : Command}
    (carried : reaction.tree.item? node = some command) {after : Stage}
    (deed : Deed stage command after) : after.world.Grounded content map := by
  rcases deed.sameGround with same | ⟨there, position, orientation, rfl, here, moves⟩
  · exact (grounded.recast same).stands
  · intro id object present
    rcases moves id object present with before | ⟨hero, put⟩
    · exact grounded.stands id object before
    · cases grounded.map_eq.symm.trans here
      rw [grounded.heroOrDefault_eq] at hero
      rw [put]
      exact .inr ⟨hero, reaction, plays, node, orientation, carried⟩

theorem follows (grounded : stage.Grounded content map) {after : Stage}
    (follows : Run.Follows content.Plays stage after) : after.Grounded content map where
  toScripted := grounded.toScripted.follows follows
  stands := by
    cases follows with
    | nothing | fork | report | missing => exact grounded.stands
    | deed reaction plays node command carried deed => exact grounded.deed plays carried deed

end Stage.Grounded

theorem Run.scripted_upheld (content : Database) (map : MapDef) :
    Upheld .standard (Run.Scripted content.Plays) (Stage.Grounded content map) := by
  refine Run.Scripted.upheld (fun _ grounded => grounded.toScripted) ?_ ?_ ?_
  · exact fun _ _ grounded => grounded.follows
  · exact fun _ _ grounded same _ => grounded.recast same
  · exact fun _ grounded => grounded.cleared

/-- A map is entered with everything on it, if the hero enters on it or comes by a teleport. -/
theorem MapScene.entered_grounded (compiled : content.Compiled scope) (scene : MapScene)
    (found : content.maps.get? scene.map = some map) (vars : IdMap Value)
    (comes : ∀ position orientation, scene.entry = some (position, orientation) →
      content.Sends map.id position) :
    Stage.Grounded content map ⟨scene.entered content vars, {}⟩ where
  toScripted := scene.entered_scripted found vars (fun _ plays => plays)
  stands id object present := by
    have bounded := compiled.bounded scene.map map found
    rcases scene.entered_objects found vars present with ⟨hero, _, stands, _⟩ |
      ⟨placed, member, rfl⟩
    · rw [stands]
      cases entry : scene.entry with
      | none => exact .inl bounded.hero
      | some place => exact .inr ⟨hero, comes place.1 place.2 entry⟩
    · exact .inl (bounded.placed placed member)

theorem Database.Compiled.upholds_ground (compiled : content.Compiled scope) :
    content.Upholds (Run.Scripted content.Plays) (Stage.Grounded content) where
  upheld map := Run.scripted_upheld content map
  begun _ _ found vars :=
    MapScene.entered_grounded compiled _ found vars (fun _ _ entry => nomatch entry)
  asked _ _ request grounded asks := by
    obtain ⟨reaction, plays, sends⟩ := grounded.scene request asks
    have known := (compiled.of_plays plays).of_sends sends
    obtain ⟨next, found⟩ := compiled.maps request.map known
    refine ⟨next, found, fun vars => ?_⟩
    refine MapScene.entered_grounded compiled (.entering request) found vars ?_
    intro position orientation entry
    cases entry
    rw [compiled.mapIds _ _ found]
    exact ⟨reaction, plays, sends⟩

def SceneStack.Grounded (content : Database) (stack : SceneStack) : Prop :=
  ∃ scene world map, stack.layers = [⟨.map scene, world⟩] ∧
    content.maps.get? scene.map = some map ∧ world.Grounded content map

theorem SceneStack.Stages.grounded {stack : SceneStack}
    (stages : stack.Stages content (Run.Scripted content.Plays) (Stage.Grounded content)) :
    stack.Grounded content := by
  obtain ⟨_, scene, world, map, layers, found, sound⟩ := stages
  exact ⟨scene, world, map, layers, found, sound.stage.stands⟩

/--
Before and after every tick of a session on compiled content, every object stands on the map in play.
Only the hero may stand off it, and only where a teleport to this map leads: nothing checks where
teleports lead.
-/
theorem compiled_objects_stand_on_map {commons : Source} {maps : List Source} {content : Database}
    (compiled : Content.compile commons maps = .ok content) (config : SessionConfig)
    (known : content.maps.contains config.startMap = true) (limit : Nat) :
    ∀ session ∈ (Session.start content config).history limit,
      session.stack.Grounded content ∧ session.played.stack.Grounded content := by
  obtain ⟨scope, compiled⟩ := Content.compile_compiled compiled
  have upholds := compiled.upholds_ground
  intro session member
  have stages := Session.history_stages upholds limit (Session.start_stages upholds known)
    session member
  have heard := stages.listenAll upholds session.feed.input.drain.1
  obtain ⟨played, _, _⟩ := heard.update upholds session.feed.input.drain.2.1
  exact ⟨stages.grounded, played.grounded⟩

def heroAlone : Source where
  path := "commons.json"
  text := "[\x7b\"name\":\"Hero\",\"states\":[[1]]\x7d,[]]"

def trapMap : Source where
  path := "trap.json"
  text := "[1,\"Cell\",1,1,[0,0],\"up\",[\x7b\"id\":1,\"name\":\"Trap\"," ++
    "\"states\":[[1,false,[\x7b\"kind\":\"teleport\",\"map_id\":1,\"x\":5,\"y\":5\x7d]]]\x7d]]"

theorem trap_sends_hero_off :
    ∃ content, Content.compile heroAlone [trapMap] = .ok content ∧
      ((Session.start content {}).history 1).map (fun session => session.played.stack.layers.map
        (fun layer => (layer.world.heroObject?.map (·.position), layer.world.extent))) =
          [[(some ⟨5, 5⟩, some ⟨1, 1⟩)]] ∧
      ∀ session ∈ (Session.start content {}).history 1,
        session.stack.Grounded content ∧ session.played.stack.Grounded content := by
  have played : (Content.compile heroAlone [trapMap]).toOption.map (fun content =>
      (content.maps.contains 1, ((Session.start content {}).history 1).map (fun session =>
        session.played.stack.layers.map (fun layer =>
          (layer.world.heroObject?.map (·.position), layer.world.extent))))) =
      some (true, [[(some ⟨5, 5⟩, some ⟨1, 1⟩)]]) := by
    decide +kernel
  cases compiled : Content.compile heroAlone [trapMap] with
  | error problem =>
    rw [compiled] at played
    cases played
  | ok content =>
    rw [compiled] at played
    obtain ⟨known, tiles⟩ := Prod.mk.inj (Option.some.inj played)
    exact ⟨content, rfl, tiles, compiled_objects_stand_on_map compiled {} known 1⟩

end TileScript
