import TileScript.Proofs.Run.Writes
import TileScript.Proofs.Scheduler.Invariants
import TileScript.Scene.Stack

namespace TileScript

namespace Scheduler

variable {levels : Nat}

theorem Opens.vars_eq {σ : Type} {allowed : World → Reaction → Trigger → Bool → Prop}
    {before after : Scheduler σ × World} (opens : Opens allowed before after) :
    after.2.vars = before.2.vars := by
  induction opens with
  | refl state => rfl
  | start reaction trigger moving allows added rest ih =>
    obtain ⟨_, _, _, _, ⟨_, same⟩ | ⟨_, _, _, _, same⟩⟩ := add?_some added <;> rw [ih, same]
    rfl
  | touch id change touch rest ih => exact ih

theorem vars_commit {σ : Type} (scheduler : Scheduler σ) (stage : Stage) :
    (scheduler.commit stage).2.vars = stage.world.vars :=
  (commit_opens scheduler stage).vars_eq

theorem Successive.vars_eq {goes : Run Activity × Stage → Bool} {first last : Stage}
    {turns : List (Run Activity × Stage)}
    (successive : Successive (.within .inert levels) goes first turns last) :
    last.world.vars = first.world.vars.assignAll
      (turns.flatMap (fun turn => Run.writes levels turn.1 turn.2.world)) := by
  induction successive with
  | done stage => rfl
  | @turn stage last turns run rest ih =>
    have left : (leftBy (.within .inert levels) goes (run, stage)).world.vars =
        (run.tick (.within .inert levels) stage).2.world.vars := by
      unfold leftBy
      dsimp only
      split
      · exact Run.vars_tearDown _ _
      · rfl
    rw [ih, left, Run.vars_tick, List.flatMap_cons, IdMap.assignAll_append]

def writes (levels : Nat) (scheduler : Scheduler Activity) (world : World) : List (Nat × Value) :=
  (scheduler.turns (.within .inert levels) world).flatMap
    (fun turn => Run.writes levels turn.1 turn.2.world)

theorem vars_update (levels : Nat) (scheduler : Scheduler Activity) (world : World) :
    (scheduler.update (.within .inert levels) world).2.2.vars =
      world.vars.assignAll (scheduler.writes levels world) := by
  obtain ⟨pass, _⟩ := passBlocking_passes (.within .inert levels) scheduler.blocking ⟨world, {}⟩
  have blocked := pass.successive.vars_eq
  unfold update writes turns
  dsimp only
  generalize passBlocking (.within .inert levels) scheduler.blocking ⟨world, {}⟩ = passed
    at blocked ⊢
  cases passed.2.effects.scene with
  | some request => exact blocked
  | none =>
    dsimp only
    rw [vars_commit, (passParallel_passes _ _ _).1.successive.vars_eq, vars_commit, blocked,
      List.flatMap_append, IdMap.assignAll_append]

theorem vars_close {σ : Type} (scheduler : Scheduler σ) (world : World) :
    (scheduler.close world).2.vars = world.vars := by
  unfold close
  dsimp only
  induction scheduler.runs generalizing world with
  | nil => rfl
  | cons run rest ih =>
    rw [List.foldl_cons, ih]
    exact run.stop.vars_tearDown world

end Scheduler

namespace MapScene

def writes (scene : MapScene) (world : World) : List (Nat × Value) :=
  (scene.opened world).1.writes maxCallDepth (scene.opened world).2

theorem vars_load (scene : MapScene) (world : World) : (scene.load world).vars = world.vars := by
  have populated (objects : List MapObject) (world : World) :
      (objects.foldl World.insertObject world).vars = world.vars := by
    induction objects generalizing world with
    | nil => rfl
    | cons object rest ih => exact ih (world.insertObject object)
  unfold load
  split
  · rfl
  · exact populated _ _

theorem vars_update (scene : MapScene) (input : InputSnapshot) (world : World) :
    (scene.update input world).2.2.vars = world.vars.assignAll (scene.writes world) := by
  obtain ⟨_, _, moved, moves, after⟩ := scene.update_eq input world
  have walked (cooldown : Nat) (world : World) :
      (moveHero cooldown input world).2.vars = world.vars := by
    unfold moveHero
    split
    · rfl
    · split
      · split <;> rfl
      · rfl
  have kept : moved.vars =
      ((scene.opened world).1.update .standard (scene.opened world).2).2.2.vars := by
    rcases moves with rfl | rfl
    · rfl
    · exact walked _ _
  rw [after, ← (scene.opened_opens world).vars_eq]
  exact kept.trans (Scheduler.vars_update maxCallDepth _ _)

theorem vars_listen (scene : MapScene) (event : InputEvent) (world : World) :
    (scene.listen event world).2.vars = world.vars := by
  unfold listen
  dsimp only
  split
  · exact (heroAction_opens _ world).vars_eq
  · rfl

theorem vars_close (scene : MapScene) (world : World) :
    (scene.close world).vars = world.vars :=
  scene.scheduler.vars_close world

end MapScene

namespace Scene

def writes : Scene → World → List (Nat × Value)
  | map scene, world => scene.writes world
  | scripted _ _, world => [(1, .number (((world.valueOf 1).number?).getD 0 + 1))]

theorem vars_load (scene : Scene) (world : World) : (scene.load world).vars = world.vars := by
  cases scene with
  | map scene => exact scene.vars_load world
  | scripted name cues => rfl

theorem vars_update (scene : Scene) (input : InputSnapshot) (world : World) :
    (scene.update input world).2.2.vars = world.vars.assignAll (scene.writes world) := by
  cases scene with
  | map scene => exact scene.vars_update input world
  | scripted name cues => rfl

theorem vars_listen (scene : Scene) (event : InputEvent) (world : World) :
    (scene.listen event world).2.vars = world.vars := by
  cases scene with
  | map scene => exact scene.vars_listen event world
  | scripted name cues => rfl

theorem vars_close (scene : Scene) (world : World) : (scene.close world).vars = world.vars := by
  cases scene with
  | map scene => exact scene.vars_close world
  | scripted name cues => rfl

end Scene

namespace SceneStack

/-- What is done to a stack. A scene of a host is whatever assigns variables and changes the rest of
the world on top. -/
inductive Operation where
  | push (scene : Scene)
  | pop
  | replace (scene : Scene)
  | popAll
  | update (input : InputSnapshot)
  | listen (event : InputEvent)
  | assign (id : Nat) (value : Value)
  | alter (change : World → World) (keeps : ∀ world, (change world).vars = world.vars)

def onTop (stack : SceneStack) (change : World → World) : SceneStack :=
  match stack.layers with
  | [] => stack
  | top :: rest => { stack with layers := { top with world := change top.world } :: rest }

def perform (stack : SceneStack) : Operation → SceneStack
  | .push scene => stack.push scene
  | .pop => stack.pop
  | .replace scene => stack.replace scene
  | .popAll => stack.popAll
  | .update input => stack.update input
  | .listen event => stack.listen event
  | .assign id value => stack.onTop (·.setVariable id value)
  | .alter change _ => stack.onTop change

def writes (stack : SceneStack) : Operation → List (Nat × Value)
  | .update _ => (stack.layers.head?.map (fun top => top.scene.writes top.world)).getD []
  | .assign id value => if stack.layers.isEmpty then [] else [(id, value)]
  | _ => []

def performAll (stack : SceneStack) (operations : List Operation) : SceneStack :=
  operations.foldl perform stack

def journal (stack : SceneStack) : List Operation → List (Nat × Value)
  | [] => []
  | operation :: rest => stack.writes operation ++ (stack.perform operation).journal rest

theorem vars_push (stack : SceneStack) (scene : Scene) : (stack.push scene).vars = stack.vars :=
  scene.vars_load _

theorem vars_pop (stack : SceneStack) : stack.pop.vars = stack.vars := by
  obtain ⟨layers, content, carried, notes⟩ := stack
  match layers with
  | [] => rfl
  | [top] => exact top.scene.vars_close top.world
  | top :: below :: others => exact top.scene.vars_close top.world

theorem vars_replace (stack : SceneStack) (scene : Scene) :
    (stack.replace scene).vars = stack.vars :=
  (stack.pop.vars_push scene).trans stack.vars_pop

theorem vars_popMany (count : Nat) (stack : SceneStack) :
    (popMany count stack).vars = stack.vars := by
  induction count generalizing stack with
  | zero => rfl
  | succ count ih => exact (ih stack.pop).trans stack.vars_pop

theorem vars_apply (stack : SceneStack) (change : SceneChange) :
    (stack.apply change).vars = stack.vars := by
  cases change with
  | stay => rfl
  | pop => exact stack.vars_pop
  | push scene => exact stack.vars_push scene
  | replace scene => exact stack.vars_replace scene

/-- An operation changes the variables in force by what it writes. -/
theorem vars_perform (stack : SceneStack) (operation : Operation) :
    (stack.perform operation).vars = stack.vars.assignAll (stack.writes operation) := by
  cases operation with
  | push scene => exact stack.vars_push scene
  | pop => exact stack.vars_pop
  | replace scene => exact stack.vars_replace scene
  | popAll => exact vars_popMany _ stack
  | update input =>
    obtain ⟨layers, content, carried, notes⟩ := stack
    cases layers with
    | nil => rfl
    | cons top rest => exact (vars_apply _ _).trans (top.scene.vars_update input top.world)
  | listen event =>
    obtain ⟨layers, content, carried, notes⟩ := stack
    cases layers with
    | nil => rfl
    | cons top rest => exact top.scene.vars_listen event top.world
  | assign id value =>
    obtain ⟨layers, content, carried, notes⟩ := stack
    cases layers <;> rfl
  | alter change keeps =>
    obtain ⟨layers, content, carried, notes⟩ := stack
    cases layers with
    | nil => rfl
    | cons top rest => exact keeps top.world

theorem vars_performAll (stack : SceneStack) (operations : List Operation) :
    (stack.performAll operations).vars = stack.vars.assignAll (stack.journal operations) := by
  induction operations generalizing stack with
  | nil => rfl
  | cons operation rest ih =>
    rw [performAll, List.foldl_cons, ← performAll, ih, journal, IdMap.assignAll_append, vars_perform]

/-- Variables are in one place: on top, or carried while nothing is there. -/
structure Single (stack : SceneStack) : Prop where
  below : ∀ layer ∈ stack.layers.tail, layer.world.vars = ∅
  carried : stack.layers ≠ [] → stack.carried = ∅

namespace Single

variable {stack : SceneStack}

theorem fresh (content : Option Database) : Single { content := content } :=
  ⟨nofun, fun filled => absurd rfl filled⟩

theorem push (single : Single stack) (scene : Scene) : Single (stack.push scene) := by
  obtain ⟨layers, content, carried, notes⟩ := stack
  cases layers with
  | nil => exact ⟨nofun, fun _ => rfl⟩
  | cons top rest =>
    refine ⟨List.forall_mem_cons.mpr ⟨rfl, single.below⟩, fun _ => single.carried nofun⟩

theorem pop (single : Single stack) : Single stack.pop := by
  obtain ⟨layers, content, carried, notes⟩ := stack
  match layers with
  | [] => exact single
  | [top] => exact ⟨nofun, fun filled => absurd rfl filled⟩
  | top :: below :: others =>
    exact ⟨(List.forall_mem_cons.mp single.below).2, fun _ => single.carried nofun⟩

theorem replace (single : Single stack) (scene : Scene) : Single (stack.replace scene) :=
  single.pop.push scene

theorem popMany (single : Single stack) (count : Nat) : Single (popMany count stack) := by
  induction count generalizing stack with
  | zero => exact single
  | succ count ih => exact ih single.pop

theorem apply (single : Single stack) (change : SceneChange) : Single (stack.apply change) := by
  cases change with
  | stay => exact single
  | pop => exact single.pop
  | push scene => exact single.push scene
  | replace scene => exact single.replace scene

/-- What happens to the top layer stays there. -/
theorem of_top {top changed : Layer} {rest : List Layer} {content : Option Database}
    {carried : IdMap Value} {notes noted : List String}
    (single : Single ⟨top :: rest, content, carried, notes⟩) :
    Single ⟨changed :: rest, content, carried, noted⟩ :=
  ⟨single.below, fun _ => single.carried nofun⟩

theorem perform (single : Single stack) (operation : Operation) :
    Single (stack.perform operation) := by
  cases operation with
  | push scene => exact single.push scene
  | pop => exact single.pop
  | replace scene => exact single.replace scene
  | popAll => exact single.popMany _
  | update input =>
    obtain ⟨layers, content, carried, notes⟩ := stack
    cases layers with
    | nil => exact single
    | cons top rest => exact single.of_top.apply _
  | listen event | assign id value | alter change keeps =>
    obtain ⟨layers, content, carried, notes⟩ := stack
    cases layers with
    | nil => exact single
    | cons top rest => exact single.of_top

theorem performAll (single : Single stack) (operations : List Operation) :
    Single (stack.performAll operations) := by
  induction operations generalizing stack with
  | nil => exact single
  | cons operation rest ih => exact ih (single.perform operation)

end Single

/--
After any operations on a stack that was empty, the layers below the top hold no variables, and none
are carried beside a layer; scenes that come and go leave the variables in force alone; and these are
everything that has been written, in order.
-/
theorem variables_live_on_top (content : Option Database) (operations : List Operation) :
    let fresh : SceneStack := { content := content }
    let stack := fresh.performAll operations
    (∀ layer ∈ stack.layers.tail, layer.world.vars = ∅) ∧
      (stack.layers ≠ [] → stack.carried = ∅) ∧
      (∀ scene, (stack.push scene).vars = stack.vars ∧ (stack.replace scene).vars = stack.vars) ∧
      stack.pop.vars = stack.vars ∧ stack.popAll.vars = stack.vars ∧
      stack.vars = IdMap.assignAll ∅ (fresh.journal operations) := by
  intro fresh stack
  have single : Single stack := (Single.fresh content).performAll operations
  exact ⟨single.below, single.carried,
    fun scene => ⟨stack.vars_push scene, stack.vars_replace scene⟩,
    stack.vars_pop, vars_popMany _ stack, fresh.vars_performAll operations⟩

end SceneStack

end TileScript
