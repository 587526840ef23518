import TileScript.Proofs.Scene.ClockStarts
import TileScript.Proofs.Scene.Pauses
import TileScript.Proofs.Scheduler.Receptions

namespace TileScript

open World (Keeps)

def MapObject.budget (object : MapObject) : ObjectModel × Bool :=
  (object.model, object.receivedEvent)

def Run.isFor {σ : Type} (id : Nat) (run : Run σ) : Bool := run.trigger.object == some id

namespace World

def Limited (id : Nat) (world : World) : Prop :=
  ∀ object, world.object? id = some object → object.model.oneEventPerFrame = true

def allowance (id : Nat) (world : World) : Nat :=
  match world.object? id with
  | some object => if object.receivedEvent then 0 else 1
  | none => 0

variable {id : Nat} {before after : World}

theorem allowance_le_one (id : Nat) (world : World) : world.allowance id ≤ 1 := by
  unfold allowance
  split
  · split <;> omega
  · omega

theorem Keeps.models (keeps : Keeps MapObject.budget before after) :
    Keeps MapObject.model before after :=
  keeps.map Prod.fst

theorem Keeps.allowance_le (keeps : Keeps MapObject.budget before after) :
    after.allowance id ≤ before.allowance id := by
  unfold allowance
  cases present : after.object? id with
  | none => exact Nat.zero_le _
  | some object =>
    obtain ⟨earlier, found, same⟩ := keeps id object present
    have received : object.receivedEvent = earlier.receivedEvent := congrArg Prod.snd same
    simp only [found, received, Nat.le_refl]

theorem Limited.of_keeps (limited : before.Limited id) (keeps : Keeps MapObject.model before after) :
    after.Limited id := by
  intro object present
  obtain ⟨earlier, found, same⟩ := keeps id object present
  rw [same]
  exact limited earlier found

end World

namespace Scheduler

variable {σ : Type}

/-- From one state to another events have started the runs, and each that is for the object counts
against the events it has left. -/
structure Spends (id : Nat) (before after : Scheduler σ × World) (runs : List (Run σ)) : Prop where
  blocking : after.1.blocking = before.1.blocking ++ runs
  models : Keeps MapObject.model before.2 after.2
  spent : before.2.Limited id →
    runs.countP (Run.isFor id) + after.2.allowance id ≤ before.2.allowance id

namespace Spends

variable {id : Nat} {first second third : Scheduler σ × World} {runs more : List (Run σ)}

theorem of_keeps (same : second.1.blocking = first.1.blocking)
    (keeps : Keeps MapObject.budget first.2 second.2) : Spends id first second [] where
  blocking := by rw [same, List.append_nil]
  models := keeps.models
  spent _ := by simpa using keeps.allowance_le

theorem drop_eq (spends : Spends id first second runs) :
    second.1.blocking.drop first.1.blocking.length = runs := by
  rw [spends.blocking, List.drop_left]

theorem refl (state : Scheduler σ × World) : Spends id state state [] :=
  .of_keeps rfl (.refl state.2)

theorem trans (one : Spends id first second runs) (two : Spends id second third more) :
    Spends id first third (runs ++ more) where
  blocking := by rw [two.blocking, one.blocking, List.append_assoc]
  models := one.models.trans two.models
  spent limited := by
    have here := one.spent limited
    have later := two.spent (limited.of_keeps one.models)
    rw [List.countP_append]
    omega

end Spends

theorem foldl_spends {α : Type} {id : Nat} {step : Scheduler σ × World → α → Scheduler σ × World}
    (spends : ∀ state item, ∃ runs, Spends id state (step state item) runs) (items : List α)
    (state : Scheduler σ × World) : ∃ runs, Spends id state (items.foldl step state) runs := by
  induction items generalizing state with
  | nil => exact ⟨[], .refl state⟩
  | cons item items ih =>
    obtain ⟨runs, here⟩ := spends state item
    obtain ⟨more, later⟩ := ih (step state item)
    exact ⟨runs ++ more, here.trans later⟩

theorem responses_length_le {object : MapObject} (single : object.model.oneEventPerFrame = true)
    (scheduler : Scheduler σ) (delivery : Delivery) :
    (scheduler.responses delivery object).length ≤ 1 := by
  simp only [responses, chosen, single, ↓reduceIte, List.length_take]
  omega

theorem receive_spends (id : Nat) (state : Scheduler σ × World) (delivery : Delivery) :
    ∃ runs, Spends id state (state.1.receive state.2 delivery).2 runs := by
  obtain ⟨scheduler, world⟩ := state
  dsimp only
  rcases receive_cases scheduler world delivery with ⟨same, _⟩ | ⟨object, present, admitted, _, same⟩
  · rw [same]
    exact ⟨[], .refl _⟩
  · rw [same]
    refine ⟨_, rfl, .modifyObject world delivery.target fun _ => rfl, fun limited => ?_⟩
    by_cases own : id = delivery.target
    · -- The object had its event left, starts one reaction at most, and has none left now.
      subst own
      obtain ⟨_, left, _⟩ := admits_iff.mp admitted
      have before : world.allowance delivery.target = 1 := by
        simp [World.allowance, present, left (limited object present)]
      have after (count : Nat) : (world.modifyObject delivery.target
          (Delivery.taken (delivery.senderPosition? world) count)).allowance delivery.target = 0 := by
        simp [World.allowance, World.object?_modifyObject, present, Delivery.taken]
      have few := responses_length_le (limited object present) scheduler delivery
      rw [before, after]
      refine Nat.le_trans List.countP_le_length ?_
      rwa [List.length_map]
    · have others : ((scheduler.responses delivery object).map delivery.run).countP
          (Run.isFor (σ := σ) id) = 0 := by
        refine List.countP_eq_zero.mpr fun run member => ?_
        obtain ⟨candidate, _, rfl⟩ := List.mem_map.mp member
        simpa [Run.isFor, Delivery.run, Delivery.trigger, Run.start] using Ne.symm own
      rw [others, Nat.zero_add]
      simp [World.allowance, World.object?_modifyObject, own]

theorem deliverTo_spends (id : Nat) (request : EventRequest) (targets : List Nat)
    (state : Scheduler σ × World) :
    ∃ runs, Spends id state (deliverTo request targets state.1 state.2).2 runs := by
  induction targets generalizing state with
  | nil => exact ⟨[], .refl state⟩
  | cons target rest ih =>
    obtain ⟨runs, here⟩ := receive_spends id state
      ⟨request.sender, target, request.system, request.event, request.parameters⟩
    obtain ⟨more, later⟩ := ih _
    exact ⟨runs ++ more, here.trans later⟩

theorem send_spends (id : Nat) (state : Scheduler σ × World) (request : EventRequest) :
    ∃ runs, Spends id state (state.1.send state.2 request).2 runs :=
  deliverTo_spends id request _ state

theorem commit_spends (id : Nat) (scheduler : Scheduler σ) (stage : Stage) :
    ∃ runs, Spends id (scheduler, stage.world) (scheduler.commit stage) runs := by
  unfold commit
  rw [deliverAll_eq_foldl]
  obtain ⟨runs, spends⟩ := foldl_spends (fun state => send_spends id state) stage.effects.events _
  exact ⟨runs, spends.blocking, spends.models, spends.spent⟩

theorem Successive.keeps {α : Type} {view : MapObject → α} (fixed : MapObject.Fixed view)
    (quiet : ∀ object, view object.release = view object) {levels : Nat}
    {goes : Run Activity × Stage → Bool} {first last : Stage}
    {turns : List (Run Activity × Stage)}
    (successive : Successive (.within .inert levels) goes first turns last) :
    Keeps view first.world last.world := by
  induction successive with
  | done stage => exact .refl stage.world
  | @turn stage _ _ run rest ih =>
    refine Keeps.trans ?_ ih
    have ticked := Run.tick_keeps fixed levels run stage
    unfold leftBy
    dsimp only
    split
    · exact ticked.trans (Run.tearDown_view quiet _ _)
    · exact ticked

def eventStarts (language : Language σ) (scheduler : Scheduler σ) (world : World) :
    List (Run σ) :=
  (scheduler.update language world).2.1.blocking.drop
    (passBlocking language scheduler.blocking ⟨world, {}⟩).1.length

/-- What the events of a tick start comes behind the reactions that have had their turns. -/
theorem update_spends (id levels : Nat) (scheduler : Scheduler Activity) (world : World) :
    let language := Language.within .inert levels
    let passed := (passBlocking language scheduler.blocking ⟨world, {}⟩).1
    Spends id ({ scheduler with blocking := passed }, world) (scheduler.update language world).2
      (scheduler.eventStarts language world) := by
  have fixed : MapObject.Fixed MapObject.budget := ⟨fun _ _ _ => rfl, fun _ _ => rfl, fun _ => rfl⟩
  have quiet (object : MapObject) : object.release.budget = object.budget := rfl
  dsimp only
  obtain ⟨pass, _⟩ := passBlocking_passes (.within .inert levels) scheduler.blocking ⟨world, {}⟩
  have blocked := pass.successive.keeps fixed quiet
  suffices spends : ∃ runs, Spends id ({ scheduler with
      blocking := (passBlocking (.within .inert levels) scheduler.blocking ⟨world, {}⟩).1 }, world)
      (scheduler.update (.within .inert levels) world).2 runs by
    obtain ⟨runs, spends⟩ := spends
    have same : scheduler.eventStarts (.within .inert levels) world = runs := spends.drop_eq
    rw [same]
    exact spends
  unfold update
  dsimp only at blocked ⊢
  generalize passBlocking (.within .inert levels) scheduler.blocking ⟨world, {}⟩ = passed
    at blocked ⊢
  cases passed.2.effects.scene with
  | some request => exact ⟨[], .of_keeps rfl blocked⟩
  | none =>
    dsimp only
    obtain ⟨first, started⟩ := commit_spends id { scheduler with
      blocking := passed.1
      blocksHero := scheduler.blocking.any (·.reaction.blocksHero) } passed.2
    generalize Scheduler.commit _ passed.2 = committed at started ⊢
    obtain ⟨besides, _⟩ :=
      passParallel_passes (.within .inert levels) committed.1.parallel ⟨committed.2, {}⟩
    have moved := besides.successive.keeps fixed quiet
    generalize passParallel (.within .inert levels) committed.1.parallel ⟨committed.2, {}⟩ = last
      at moved ⊢
    obtain ⟨second, ended⟩ := commit_spends id { committed.1 with parallel := last.1 } last.2
    have begun : Spends id ({ scheduler with blocking := passed.1 }, world)
        ({ scheduler with
          blocking := passed.1
          blocksHero := scheduler.blocking.any (·.reaction.blocksHero) }, passed.2.world) [] :=
      .of_keeps rfl blocked
    have between : Spends id committed ({ committed.1 with parallel := last.1 }, last.2.world) [] :=
      .of_keeps rfl moved
    exact ⟨_, ((begun.trans started).trans between).trans ended⟩

end Scheduler

namespace MapScene

open Scheduler (Spends)

theorem fireDue_spends (id key : Nat) (due : List (Nat × List Value))
    (state : Scheduler Activity × World) :
    ∃ runs, Spends id state (fireDue key due state.1 state.2).2 runs := by
  induction due generalizing state with
  | nil => exact ⟨[], .refl state⟩
  | cons clock rest ih =>
    obtain ⟨runs, here⟩ := Scheduler.receive_spends id state ⟨some key, key, true, timeEvent, clock.2⟩
    rw [fireDue]
    dsimp only
    split
    · obtain ⟨more, later⟩ := ih _
      exact ⟨runs ++ more, here.trans later⟩
    · exact ⟨runs, here⟩

theorem tickClocks_spends (id : Nat) (state : Scheduler Activity × World) (key : Nat) :
    ∃ runs, Spends id state (tickClocks state.1 state.2 key) runs := by
  unfold tickClocks
  split
  · exact ⟨[], .refl state⟩
  · split
    · exact ⟨[], .refl state⟩
    · rename_i object _ _
      have advanced : Spends id state (state.1, state.2.modifyObject key MapObject.advanceClocks) [] :=
        .of_keeps rfl (.modifyObject _ key fun _ => rfl)
      obtain ⟨runs, fired⟩ := fireDue_spends id key (Clock.due object.advanceClocks.clocks)
        (state.1, state.2.modifyObject key MapObject.advanceClocks)
      exact ⟨_, (advanced.trans fired).trans (.of_keeps rfl (.modifyObject _ key fun _ => rfl))⟩

theorem clockStarts_spend (id : Nat) (scheduler : Scheduler Activity) (world : World) :
    Spends id (scheduler, world) (fireTimeEvents scheduler world) (clockStarts scheduler world) := by
  obtain ⟨runs, spends⟩ := Scheduler.foldl_spends (tickClocks_spends id) world.objects.ids
    (scheduler, world)
  rw [clockStarts_eq spends.blocking]
  exact spends

theorem heroAction_spends (id : Nat) (state : Scheduler Activity × World) :
    ∃ runs, Spends id state (heroAction state.1 state.2) runs := by
  unfold heroAction
  split
  · exact ⟨[], .refl state⟩
  · exact Scheduler.foldl_spends (fun state _ => Scheduler.receive_spends id state _) _ state

end MapScene

namespace Operation

open Scheduler (Spends)

def answers (operation : Operation) (scene : MapScene) (world : World) : List (Run Activity) :=
  match operation with
  | .receive _ | .send _ | .listenScene _ =>
    (operation.apply scene world).1.scheduler.blocking.drop scene.scheduler.blocking.length
  | .tick => scene.scheduler.eventStarts .standard world
  | .updateScene _ =>
    let opened := scene.opened world
    MapScene.clockStarts scene.scheduler world ++ opened.1.eventStarts .standard opened.2
  | _ => []

def endsFrame : Operation → Bool
  | .updateScene _ | .endFrame => true
  | _ => false

end Operation

theorem MapScene.update_spends (id : Nat) (scene : MapScene) (input : InputSnapshot)
    (world : World) :
    Keeps MapObject.model world (scene.update input world).2.2 ∧ (world.Limited id →
      ((Operation.updateScene input).answers scene world).countP (Run.isFor id) ≤
        world.allowance id) := by
  -- The routes that set out between the clocks and the reactions leave the world as it is.
  have still : (scene.opened world).2 = (fireTimeEvents scene.scheduler world).2 :=
    startRoutes_world _ _
  obtain ⟨_, timed, clocks⟩ := clockStarts_spend id scene.scheduler world
  obtain ⟨_, passed, events⟩ :=
    Scheduler.update_spends id maxCallDepth (scene.opened world).1 (scene.opened world).2
  rw [← still] at timed clocks
  constructor
  · obtain ⟨_, _, moved, moves, after⟩ := scene.update_eq input world
    rw [after]
    refine (timed.trans passed).trans (Keeps.trans ?_ (.endFrame moved fun _ => rfl))
    rcases moves with rfl | rfl
    · exact .refl _
    · exact moveHero_view (fun _ _ _ => rfl) _ _ _
  · intro limited
    have here := clocks limited
    have there : ((scene.opened world).1.eventStarts .standard (scene.opened world).2).countP
        (Run.isFor id) ≤ (scene.opened world).2.allowance id :=
      Nat.le_trans (Nat.le_add_right _ _) (events (limited.of_keeps timed))
    have counted : ((Operation.updateScene input).answers scene world).countP (Run.isFor id) =
        (clockStarts scene.scheduler world).countP (Run.isFor id) +
          ((scene.opened world).1.eventStarts .standard (scene.opened world).2).countP
            (Run.isFor id) :=
      List.countP_append
    dsimp only at here
    omega

theorem MapScene.listen_spends (id : Nat) (scene : MapScene) (event : InputEvent) (world : World) :
    Keeps MapObject.model world (scene.listen event world).2 ∧ (world.Limited id →
      ((Operation.listenScene event).answers scene world).countP (Run.isFor id) +
        (scene.listen event world).2.allowance id ≤ world.allowance id) := by
  have heard : (scene.scheduler.listen .standard event).blocking.length =
      scene.scheduler.blocking.length := by
    simp [Scheduler.listen]
  suffices acts : ∃ runs, Scheduler.Spends id (scene.scheduler.listen .standard event, world)
      ((scene.listen event world).1.scheduler, (scene.listen event world).2) runs by
    obtain ⟨runs, spends⟩ := acts
    have own : (Operation.listenScene event).answers scene world = runs := by
      rw [← spends.drop_eq, heard]
      rfl
    rw [own]
    exact ⟨spends.models, spends.spent⟩
  unfold listen
  dsimp only
  split
  · exact heroAction_spends id (scene.scheduler.listen .standard event, world)
  · exact ⟨[], .refl _⟩

/-- What events start for the object in an operation counts against the events it has left, until
the frame ends. -/
theorem Operation.answers_spend {id : Nat} (operation : Operation) (scene : MapScene)
    {world : World} (limited : world.Limited id) :
    let after := operation.apply scene world
    Keeps MapObject.model world after.2 ∧
      (operation.answers scene world).countP (Run.isFor id) +
        (if operation.endsFrame then 0 else after.2.allowance id) ≤ world.allowance id := by
  have quiet {next : World} (keeps : Keeps MapObject.budget world next) :
      Keeps MapObject.model world next ∧ 0 + next.allowance id ≤ world.allowance id :=
    ⟨keeps.models, by rw [Nat.zero_add]; exact keeps.allowance_le⟩
  cases operation with
  | add reaction trigger moving =>
    refine quiet ?_
    dsimp only [Operation.apply]
    cases added : scene.scheduler.add? world reaction trigger moving with
    | none => exact .refl world
    | some started =>
      obtain ⟨_, _, _, _, ⟨_, same⟩ | ⟨_, _, key, _, same⟩⟩ := Scheduler.add?_some added
      · rw [Option.getD_some, same]
        exact .refl world
      · rw [Option.getD_some, same]
        exact .modifyObject world key fun _ => rfl
  | receive delivery =>
    obtain ⟨runs, spends⟩ := Scheduler.receive_spends id (scene.scheduler, world) delivery
    rw [show (Operation.receive delivery).answers scene world = runs from spends.drop_eq]
    exact ⟨spends.models, spends.spent limited⟩
  | send request =>
    obtain ⟨runs, spends⟩ := Scheduler.send_spends id (scene.scheduler, world) request
    rw [show (Operation.send request).answers scene world = runs from spends.drop_eq]
    exact ⟨spends.models, spends.spent limited⟩
  | tick =>
    obtain ⟨_, models, spent⟩ := Scheduler.update_spends id maxCallDepth scene.scheduler world
    exact ⟨models, spent limited⟩
  | listen event => exact quiet (.refl world)
  | close => exact quiet (scene.scheduler.close_view (fun _ => rfl) world)
  | updateScene input =>
    obtain ⟨models, spent⟩ := scene.update_spends id input world
    exact ⟨models, spent limited⟩
  | listenScene event =>
    obtain ⟨models, spent⟩ := scene.listen_spends id event world
    exact ⟨models, spent limited⟩
  | removeObject key => exact quiet (.removeObject world key fun _ => rfl)
  | endFrame => exact ⟨.endFrame world fun _ => rfl, Nat.zero_le _⟩

def framesFrom (begun : List (Run Activity)) :
    List Operation → MapScene → World → List (List (Run Activity))
  | [], _, _ => [begun]
  | operation :: rest, scene, world =>
    let after := operation.apply scene world
    let frame := begun ++ operation.answers scene world
    if operation.endsFrame then frame :: framesFrom [] rest after.1 after.2
    else framesFrom frame rest after.1 after.2

theorem framesFrom_limited {id : Nat} (operations : List Operation) {begun : List (Run Activity)}
    {scene : MapScene} {world : World} (limited : world.Limited id)
    (few : begun.countP (Run.isFor id) + world.allowance id ≤ 1) :
    ∀ frame ∈ framesFrom begun operations scene world, frame.countP (Run.isFor id) ≤ 1 := by
  induction operations generalizing begun scene world with
  | nil =>
    refine List.forall_mem_singleton.mpr ?_
    omega
  | cons operation rest ih =>
    obtain ⟨models, spent⟩ := operation.answers_spend scene limited
    rw [framesFrom]
    have later := limited.of_keeps models
    split
    · rename_i ends
      rw [if_pos ends] at spent
      refine List.forall_mem_cons.mpr ⟨?_, ih later ?_⟩
      · rw [List.countP_append]
        omega
      · simpa using World.allowance_le_one id _
    · rename_i goes
      rw [if_neg goes] at spent
      refine ih later ?_
      rw [List.countP_append]
      omega

/-- However clocks, the hero, commands and the host send events: from one end of a frame to the next,
an object that is limited to one event a frame starts at most one reaction on them. -/
theorem one_event_per_frame {id : Nat} {world : World} (limited : world.Limited id)
    (operations : List Operation) (scene : MapScene) :
    ∀ frame ∈ framesFrom [] operations scene world,
      (frame.filter (fun run => run.trigger.object == some id)).length ≤ 1 := by
  intro frame member
  rw [← List.countP_eq_length_filter]
  refine framesFrom_limited operations limited ?_ frame member
  simpa using world.allowance_le_one id

def quietPorch : World :=
  Scheduler.porch.modifyObject 1 (fun object =>
    { object with model := { object.model with oneEventPerFrame := true } })

theorem quiet_porch_answers_once :
    let frames := framesFrom []
      [.receive Scheduler.ring, .receive Scheduler.ring, .endFrame, .receive Scheduler.ring,
        .updateScene {}] { map := 1 } quietPorch
    frames.map (·.map (·.reaction.name)) = [["porch chime"], ["porch bark"], []] ∧
      ∀ frame ∈ frames, (frame.filter (fun run => run.trigger.object == some 1)).length ≤ 1 := by
  have limited : quietPorch.Limited 1 := by
    intro object present
    cases present
    rfl
  exact ⟨by decide +kernel, one_event_per_frame limited _ _⟩

end TileScript
