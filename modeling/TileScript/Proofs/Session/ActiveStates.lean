import TileScript.Proofs.Session.Ground

namespace TileScript

open Scheduler (Upheld)
open World (Keeps)

/-- All active states are declared, and if there is one, the first of them is the current one. -/
structure MapObject.Settled (object : MapObject) : Prop where
  declared : ∀ state ∈ object.states, object.model.hasState state = true
  current : object.states ≠ [] → ∃ state ∈ object.model.states, object.currentState? = some state

theorem MapObject.Settled.of_declared {object : MapObject}
    (declared : ∀ state ∈ object.states, object.model.hasState state = true) : object.Settled where
  declared := declared
  current active := by
    obtain ⟨first, rest, listed⟩ := List.exists_cons_of_ne_nil active
    obtain ⟨state, found⟩ := Option.isSome_iff_exists.mp
      (declared first (listed ▸ List.mem_cons_self))
    refine ⟨state, List.mem_of_find?_eq_some found, ?_⟩
    rw [currentState?, listed]
    exact found

/-- A state that is made active has to be declared; the others were active before. -/
theorem StateOperation.on_settled {operation : StateOperation} {state : Nat} {object : MapObject}
    (settled : object.Settled)
    (declared : operation ≠ .remove → object.model.hasState state = true) :
    (operation.on state object).Settled := by
  cases operation with
  | replace =>
    refine .of_declared fun active member => ?_
    cases List.mem_singleton.mp member
    exact declared (by simp)
  | add =>
    unfold on MapObject.addState
    dsimp only
    split
    · exact settled
    · refine .of_declared fun active member => ?_
      rcases List.mem_append.mp member with before | added
      · exact settled.declared active before
      · cases List.mem_singleton.mp added
        exact declared (by simp)
  | remove =>
    refine .of_declared fun active member => ?_
    exact settled.declared active (List.mem_filter.mp member).1

def World.Settled (world : World) : Prop :=
  ∀ id object, world.object? id = some object → object.Settled

namespace World.Settled

theorem of_keeps {before after : World} (settled : before.Settled)
    (models : Keeps MapObject.model before after) (states : Keeps MapObject.states before after) :
    after.Settled := by
  intro id object present
  obtain ⟨earlier, found, model⟩ := models id object present
  obtain ⟨same, found', active⟩ := states id object present
  cases found.symm.trans found'
  refine .of_declared fun state member => ?_
  rw [active] at member
  rw [model]
  exact (settled id earlier found).declared state member

/-- Only a change of state makes a state active, and it checks that the state is declared. -/
theorem deed {stage after : Stage} {command : Command} (settled : stage.world.Settled)
    (deed : Deed stage command after) : after.world.Settled := by
  cases deed with
  | nothing | assign | announce | depart => exact settled
  | put | walk =>
    exact settled.of_keeps (.modifyObject _ _ fun _ => rfl) (.modifyObject _ _ fun _ => rfl)
  | activate reference state operation id object present declared =>
    intro key changed found
    rw [World.object?_modifyObject] at found
    split at found
    · rename_i same
      subst same
      rw [present] at found
      cases found
      exact StateOperation.on_settled (settled key object present) declared
    · exact settled key changed found
  | remove =>
    exact settled.of_keeps (.removeObject _ _ fun _ => rfl) (.removeObject _ _ fun _ => rfl)

end World.Settled

variable {scope : Scope} {content : Database} {map : MapDef} {stage : Stage}

structure Stage.Settled (content : Database) (map : MapDef) (stage : Stage) : Prop
    extends Stage.Scripted content.Plays content map stage where
  settled : stage.world.Settled

theorem Stage.Settled.follows (settled : stage.Settled content map) {after : Stage}
    (follows : Run.Follows content.Plays stage after) : after.Settled content map where
  toScripted := settled.toScripted.follows follows
  settled := by
    cases follows with
    | nothing | fork | report | missing => exact settled.settled
    | deed reaction plays node command carried deed => exact settled.settled.deed deed

theorem Run.settled_upheld (content : Database) (map : MapDef) :
    Upheld .standard (Run.Scripted content.Plays) (Stage.Settled content map) := by
  refine Run.Scripted.upheld (fun _ settled => settled.toScripted) ?_ ?_ ?_
  · exact fun _ _ settled => settled.follows
  · exact fun _ _ settled same states =>
      ⟨settled.toScripted.recast same.toSameCast, settled.settled.of_keeps same.models states⟩
  · exact fun _ settled => ⟨settled.toScripted.cleared, settled.settled⟩

/-- The objects of a map are placed in declared states, and the hero enters in its default one. -/
theorem MapScene.entered_settled (scene : MapScene)
    (found : content.maps.get? scene.map = some map)
    (placed : ∀ placed ∈ map.objects, ∀ state ∈ placed.initialStates,
      placed.model.hasState state = true) (vars : IdMap Value) :
    Stage.Settled content map ⟨scene.entered content vars, {}⟩ where
  toScripted := scene.entered_scripted found vars (fun _ plays => plays)
  settled id object present := by
    rcases scene.entered_objects found vars present with ⟨_, cast, _, active⟩ |
      ⟨declared, member, rfl⟩
    · refine .of_declared fun state member => ?_
      rw [active] at member
      rw [cast]
      exact ObjectModel.hasState_of_default member
    · exact .of_declared (placed declared member)

theorem Database.Compiled.upholds_states (compiled : content.Compiled scope)
    (placed : ∀ id map, content.maps.get? id = some map → ∀ placed ∈ map.objects,
      ∀ state ∈ placed.initialStates, placed.model.hasState state = true) :
    content.Upholds (Run.Scripted content.Plays) (Stage.Settled content) where
  upheld map := Run.settled_upheld content map
  begun id map found := MapScene.entered_settled { map := id } found (placed id map found)
  asked _ _ request settled asks := by
    obtain ⟨reaction, plays, sends⟩ := settled.scene request asks
    obtain ⟨next, found⟩ := compiled.maps request.map ((compiled.of_plays plays).of_sends sends)
    exact ⟨next, found, MapScene.entered_settled (.entering request) found (placed _ next found)⟩

def SceneStack.Settled (stack : SceneStack) : Prop :=
  ∃ scene world, stack.layers = [⟨.map scene, world⟩] ∧ world.Settled

theorem SceneStack.Stages.settled {stack : SceneStack}
    (stages : stack.Stages content (Run.Scripted content.Plays) (Stage.Settled content)) :
    stack.Settled := by
  obtain ⟨_, scene, world, map, layers, _, sound⟩ := stages
  exact ⟨scene, world, layers, sound.stage.settled⟩

/--
In a session on compiled content, every object, the hero included, is only in states that its model
declares, and if it is in one at all, it has a current state. That is so from the start, after each
input, before and after every turn of a run, and when a tick is over.
-/
theorem active_states_declared {commons : Source} {maps : List Source} {content : Database}
    (compiled : Content.compile commons maps = .ok content) (config : SessionConfig)
    (known : content.maps.contains config.startMap = true) (limit : Nat) :
    (Session.start content config).stack.Settled ∧
    ∀ session ∈ (Session.start content config).history limit,
      (∀ heard, heard <+: session.feed.input.drain.1 →
        (heard.foldl SceneStack.listen session.stack).Settled) ∧
      (∀ turn ∈ session.turns,
        turn.2.world.Settled ∧ (turn.1.tick .standard turn.2).2.world.Settled) ∧
      session.played.stack.Settled := by
  obtain ⟨scope, checked⟩ := Content.compile_compiled compiled
  have upholds := checked.upholds_states (Content.compile_states compiled)
  have begun := Session.start_stages upholds known
  refine ⟨begun.settled, fun session member => ?_⟩
  have stages := Session.history_stages upholds limit begun session member
  have heard := stages.listenAll upholds session.feed.input.drain.1
  obtain ⟨played, turned, _⟩ := heard.update upholds session.feed.input.drain.2.1
  refine ⟨fun events _ => (stages.listenAll upholds events).settled, fun turn among => ?_,
    played.settled⟩
  obtain ⟨fits, map, settled⟩ := turned turn among
  exact ⟨settled.settled, ((upholds.upheld map).ticked turn.1 turn.2 fits settled).2.settled⟩

def lampMap : Source where
  path := "lamp.json"
  text := "[1,\"Cell\",1,1,[0,0],\"up\",[\x7b\"id\":1,\"name\":\"Lamp\"," ++
    "\"states\":[[1,false,[\x7b\"kind\":\"change_state\",\"state\":2," ++
    "\"operation\":\"add\"\x7d]],[2]]\x7d]]"

theorem lamp_is_lit :
    ∃ content, Content.compile heroAlone [lampMap] = .ok content ∧
      ((Session.start content {}).history 1).map (fun session => session.played.stack.layers.map
        (fun layer => (layer.world.object? 1).map (·.states))) = [[some [1, 2]]] ∧
      ∀ session ∈ (Session.start content {}).history 1, session.played.stack.Settled := by
  have played : (Content.compile heroAlone [lampMap]).toOption.map (fun content =>
      (content.maps.contains 1, ((Session.start content {}).history 1).map (fun session =>
        session.played.stack.layers.map (fun layer =>
          (layer.world.object? 1).map (·.states))))) = some (true, [[some [1, 2]]]) := by
    decide +kernel
  cases compiled : Content.compile heroAlone [lampMap] with
  | error problem =>
    rw [compiled] at played
    cases played
  | ok content =>
    rw [compiled] at played
    obtain ⟨known, states⟩ := Prod.mk.inj (Option.some.inj played)
    obtain ⟨_, settled⟩ := active_states_declared compiled {} known 1
    exact ⟨content, rfl, states, fun session member => (settled session member).2.2⟩

end TileScript
