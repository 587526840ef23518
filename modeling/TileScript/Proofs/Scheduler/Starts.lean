import TileScript.Proofs.World.Objects
import TileScript.Scene.MapScene

namespace TileScript

inductive Touch : (MapObject → MapObject) → Prop where
  | mark (senderPosition : Option Position) : Touch (Delivery.mark senderPosition)
  | advance : Touch MapObject.advanceClocks
  | fire (indices : List Nat) : Touch (fun object => object.fireClocks indices)

theorem Delivery.mark_eq (senderPosition : Option Position) (object : MapObject) :
    ∃ orientation, mark senderPosition object =
      { object with orientation := orientation, receivedEvent := true } := by
  unfold mark MapObject.face
  dsimp only
  split
  · split
    · exact ⟨_, rfl⟩
    · split <;> exact ⟨_, rfl⟩
  · exact ⟨_, rfl⟩

theorem Touch.quiet {change : MapObject → MapObject} (touch : Touch change) (object : MapObject) :
    (change object).pauseCount = object.pauseCount ∧ (change object).model = object.model ∧
      (change object).states = object.states ∧ (change object).position = object.position := by
  cases touch with
  | mark senderPosition =>
    obtain ⟨orientation, same⟩ := Delivery.mark_eq senderPosition object
    rw [same]
    exact ⟨rfl, rfl, rfl, rfl⟩
  | advance | fire => exact ⟨rfl, rfl, rfl, rfl⟩

theorem Touch.route?_eq {change : MapObject → MapObject} (touch : Touch change)
    (object : MapObject) : (change object).route? = object.route? := by
  obtain ⟨_, model, states, _⟩ := touch.quiet object
  rw [MapObject.route?, MapObject.currentState?, model, states]
  rfl

/-- The route that an object is to walk is one of those its model declares. -/
theorem MapObject.route?_declared {object : MapObject} {route : Reaction}
    (current : object.route? = some route) :
    ∃ state ∈ object.model.states, state.route = some route := by
  obtain ⟨state, declared, plays⟩ := Option.bind_eq_some_iff.mp current
  obtain ⟨first, _, found⟩ := Option.bind_eq_some_iff.mp declared
  exact ⟨state, List.mem_of_find?_eq_some found, plays⟩

def World.Answers (world : World) (reaction : Reaction) (trigger : Trigger) (moving : Bool) : Prop :=
  moving = false ∧ ∃ id object handler state, trigger.object = some id ∧
    world.object? id = some object ∧ handler ∈ object.model.handlers ∧
    handler.reactions.get? state = some reaction

def World.SetsOut (world : World) (reaction : Reaction) (trigger : Trigger) (moving : Bool) : Prop :=
  moving = true ∧ ∃ id object, trigger.object = some id ∧ world.object? id = some object ∧
    object.route? = some reaction

def World.Declares (world : World) (reaction : Reaction) (trigger : Trigger) (moving : Bool) : Prop :=
  world.Answers reaction trigger moving ∨ world.SetsOut reaction trigger moving

theorem World.Declares.plays {world : World} {reaction : Reaction} {trigger : Trigger}
    {moving : Bool} (declares : world.Declares reaction trigger moving) :
    ∃ id object, world.object? id = some object ∧ object.model.Plays reaction := by
  rcases declares with ⟨_, id, object, handler, state, _, present, known, reacts⟩ |
    ⟨_, id, object, _, present, current⟩
  · exact ⟨id, object, present, .answer handler known state reacts⟩
  · obtain ⟨state, declared, route⟩ := MapObject.route?_declared current
    exact ⟨id, object, present, .route state declared route⟩

theorem World.Answers.modifyObject {world : World} {reaction : Reaction} {trigger : Trigger}
    {moving : Bool} (answers : world.Answers reaction trigger moving) (key : Nat)
    {change : MapObject → MapObject} (quiet : ∀ object, (change object).model = object.model) :
    (world.modifyObject key change).Answers reaction trigger moving := by
  obtain ⟨still, id, object, handler, state, bound, present, known, reacts⟩ := answers
  by_cases named : id = key
  · refine ⟨still, id, change object, handler, state, bound, ?_, ?_, reacts⟩
    · rw [World.object?_modifyObject, if_pos named, present]
      rfl
    · rw [quiet]
      exact known
  · refine ⟨still, id, object, handler, state, bound, ?_, known, reacts⟩
    rw [World.object?_modifyObject, if_neg named]
    exact present

namespace Scheduler

variable {σ : Type}

theorem add?_some {scheduler : Scheduler σ} {world : World} {reaction : Reaction}
    {trigger : Trigger} {moving : Bool} {started : Scheduler σ × World}
    (added : scheduler.add? world reaction trigger moving = some started) :
    reaction.isEmpty = false ∧ scheduler.isRunning trigger.object reaction = false ∧
    ∃ held, started.1 = { scheduler with
        blocking := scheduler.blocking ++
          [{ Run.start reaction trigger with moving := moving, holdsPause := held }] } ∧
      ((held = false ∧ started.2 = world) ∨
        (held = true ∧ moving = false ∧ ∃ id, trigger.object = some id ∧
          started.2 = world.modifyObject id MapObject.hold)) := by
  unfold add? at added
  split at added
  · cases added
  · rename_i free
    simp only [Bool.or_eq_true, not_or, Bool.not_eq_true] at free
    refine ⟨free.1, free.2, ?_⟩
    dsimp only at added
    split at added
    · rename_i id bound
      cases added
      cases moving with
      | true => cases bound
      | false =>
        obtain ⟨bound, _⟩ := Option.filter_eq_some_iff.mp bound
        exact ⟨true, rfl, .inr ⟨rfl, rfl, id, bound, rfl⟩⟩
    · cases added
      exact ⟨false, rfl, .inl ⟨rfl, rfl⟩⟩

/-- A scheduler and a world after some reactions have been started, each of which was allowed to, and
some objects touched. -/
inductive Opens (allowed : World → Reaction → Trigger → Bool → Prop) :
    Scheduler σ × World → Scheduler σ × World → Prop where
  | refl (state : Scheduler σ × World) : Opens allowed state state
  | start {state started next : Scheduler σ × World} (reaction : Reaction) (trigger : Trigger)
      (moving : Bool) (allows : allowed state.2 reaction trigger moving)
      (added : state.1.add? state.2 reaction trigger moving = some started)
      (rest : Opens allowed started next) : Opens allowed state next
  | touch {state next : Scheduler σ × World} (id : Nat) (change : MapObject → MapObject)
      (touch : Touch change)
      (rest : Opens allowed (state.1, state.2.modifyObject id change) next) :
      Opens allowed state next

section Opens

variable {allowed wider : World → Reaction → Trigger → Bool → Prop}

theorem Opens.trans {first second third : Scheduler σ × World} (one : Opens allowed first second)
    (two : Opens allowed second third) : Opens allowed first third := by
  induction one with
  | refl state => exact two
  | start reaction trigger moving allows added rest ih =>
    exact .start reaction trigger moving allows added (ih two)
  | touch id change touch rest ih => exact .touch id change touch (ih two)

theorem Opens.mono {before after : Scheduler σ × World} (opens : Opens allowed before after)
    (embed : ∀ {world reaction trigger moving}, allowed world reaction trigger moving →
      wider world reaction trigger moving) : Opens wider before after := by
  induction opens with
  | refl state => exact .refl state
  | start reaction trigger moving allows added rest ih =>
    exact .start reaction trigger moving (embed allows) added ih
  | touch id change touch rest ih => exact .touch id change touch ih

theorem Opens.parallel_eq {before after : Scheduler σ × World} (opens : Opens allowed before after) :
    after.1.parallel = before.1.parallel := by
  induction opens with
  | refl state => rfl
  | start reaction trigger moving allows added rest ih =>
    obtain ⟨_, _, held, started, _⟩ := add?_some added
    rw [ih, started]
  | touch id change touch rest ih => exact ih

theorem foldl_opens {α : Type} {step : Scheduler σ × World → α → Scheduler σ × World}
    (opens : ∀ state item, Opens allowed state (step state item)) (items : List α)
    (state : Scheduler σ × World) : Opens allowed state (items.foldl step state) := by
  induction items generalizing state with
  | nil => exact .refl state
  | cons item items ih => exact (opens state item).trans (ih (step state item))

end Opens

theorem answers_candidates {delivery : Delivery} {world : World} {object : MapObject}
    (present : world.object? delivery.target = some object) :
    ∀ candidate ∈ delivery.candidates object,
      world.Answers candidate.2 (delivery.trigger candidate.1) false := by
  intro candidate member
  obtain ⟨state, _, member⟩ := List.mem_flatMap.mp member
  obtain ⟨reaction, listed, rfl⟩ := List.mem_map.mp member
  obtain ⟨handler, known, reacts⟩ := List.mem_filterMap.mp listed
  exact ⟨rfl, delivery.target, object, handler, state, rfl, present,
    (List.mem_filter.mp known).1, reacts⟩

theorem startEach_opens (delivery : Delivery) (senderPosition : Option Position) (single : Bool)
    (candidates : List (Nat × Reaction)) (scheduler : Scheduler σ) (world : World)
    (answers : ∀ candidate ∈ candidates,
      world.Answers candidate.2 (delivery.trigger candidate.1) false) :
    Opens World.Answers (scheduler, world)
      (startEach delivery senderPosition single candidates scheduler world).2 := by
  induction candidates generalizing scheduler world with
  | nil => exact .refl _
  | cons candidate rest ih =>
    obtain ⟨state, reaction⟩ := candidate
    obtain ⟨first, later⟩ := List.forall_mem_cons.mp answers
    rw [startEach]
    split
    · exact ih scheduler world later
    · rename_i started held added
      refine .start reaction _ false first added
        (.touch delivery.target _ (.mark senderPosition) ?_)
      dsimp only
      split
      · exact .refl _
      · -- Neither the hold taken nor the touch changes what an object is declared with.
        refine ih started _ fun candidate member => ?_
        refine World.Answers.modifyObject ?_ delivery.target
          (fun object => (Touch.quiet (.mark senderPosition) object).2.1)
        obtain ⟨_, _, _, _, ⟨_, same⟩ | ⟨_, _, id, _, same⟩⟩ := add?_some added
        · cases same
          exact later candidate member
        · cases same
          exact (later candidate member).modifyObject id (fun _ => rfl)

theorem receive_opens (scheduler : Scheduler σ) (world : World) (delivery : Delivery) :
    Opens World.Answers (scheduler, world) (scheduler.receive world delivery).2 := by
  unfold receive
  split
  · exact .refl _
  · rename_i object present
    split
    · exact startEach_opens delivery _ _ _ scheduler world (answers_candidates present)
    · exact .refl _

theorem deliverTo_opens (request : EventRequest) (targets : List Nat) (scheduler : Scheduler σ)
    (world : World) :
    Opens World.Answers (scheduler, world) (deliverTo request targets scheduler world).2 := by
  induction targets generalizing scheduler world with
  | nil => exact .refl _
  | cons target rest ih => exact (receive_opens scheduler world _).trans (ih _ _)

theorem send_opens (scheduler : Scheduler σ) (world : World) (request : EventRequest) :
    Opens World.Answers (scheduler, world) (scheduler.send world request).2 :=
  deliverTo_opens request _ scheduler world

theorem deliverAll_opens (requests : List EventRequest) (scheduler : Scheduler σ) (world : World) :
    Opens World.Answers (scheduler, world) (deliverAll requests scheduler world) := by
  induction requests generalizing scheduler world with
  | nil => exact .refl _
  | cons request rest ih => exact (send_opens scheduler world request).trans (ih _ _)

theorem commit_opens (scheduler : Scheduler σ) (stage : Stage) :
    Opens World.Answers ({ scheduler.collect stage.effects with
      parallel := scheduler.parallel ++
        stage.effects.forks.map (fun fork => Run.beside fork.reaction fork.trigger fork.node) },
      stage.world) (scheduler.commit stage) :=
  deliverAll_opens stage.effects.events _ stage.world

end Scheduler

namespace MapScene

open Scheduler (Opens)

theorem fireDue_opens (id : Nat) (due : List (Nat × List Value)) (scheduler : Scheduler Activity)
    (world : World) :
    Opens World.Answers (scheduler, world) (fireDue id due scheduler world).2 := by
  induction due generalizing scheduler world with
  | nil => exact .refl _
  | cons clock rest ih =>
    rw [fireDue]
    dsimp only
    split
    · exact (Scheduler.receive_opens scheduler world _).trans (ih _ _)
    · exact Scheduler.receive_opens scheduler world _

theorem tickClocks_opens (scheduler : Scheduler Activity) (world : World) (id : Nat) :
    Opens World.Answers (scheduler, world) (tickClocks scheduler world id) := by
  unfold tickClocks
  split
  · exact .refl _
  · split
    · exact .refl _
    · refine .touch id _ .advance (Opens.trans ?_ (.touch id _ (.fire _) (.refl _)))
      exact fireDue_opens id _ scheduler _

theorem fireTimeEvents_opens (scheduler : Scheduler Activity) (world : World) :
    Opens World.Answers (scheduler, world) (fireTimeEvents scheduler world) :=
  Scheduler.foldl_opens (fun state id => tickClocks_opens state.1 state.2 id) _ _

theorem startRoute_opens (scheduler : Scheduler Activity) (world : World) (id : Nat) :
    Opens World.SetsOut (scheduler, world) (startRoute scheduler world id) := by
  unfold startRoute
  split
  · exact .refl _
  · rename_i object present
    split
    · exact .refl _
    · split
      · exact .refl _
      · rename_i route current
        cases added : scheduler.add? world route { object := some id } true with
        | none => exact .refl _
        | some started =>
          exact .start route _ true ⟨rfl, id, object, rfl, present, current⟩ added (.refl _)

theorem startRoute_world (scheduler : Scheduler Activity) (world : World) (id : Nat) :
    (startRoute scheduler world id).2 = world := by
  unfold startRoute
  split
  · rfl
  · split
    · rfl
    · split
      · rfl
      · rename_i route _
        cases added : scheduler.add? world route { object := some id } true with
        | none => rfl
        | some started =>
          obtain ⟨_, _, _, _, ⟨_, same⟩ | ⟨_, still, _⟩⟩ := Scheduler.add?_some added
          · exact same
          · cases still

/-- A route that sets out holds nothing. -/
theorem startRoutes_world (scheduler : Scheduler Activity) (world : World) :
    (startRoutes scheduler world).2 = world := by
  have all (ids : List Nat) (state : Scheduler Activity × World) :
      (ids.foldl (fun state id => startRoute state.1 state.2 id) state).2 = state.2 := by
    induction ids generalizing state with
    | nil => rfl
    | cons id rest ih => exact (ih _).trans (startRoute_world state.1 state.2 id)
  exact all world.objects.ids (scheduler, world)

theorem startRoutes_opens (scheduler : Scheduler Activity) (world : World) :
    Opens World.SetsOut (scheduler, world) (startRoutes scheduler world) :=
  Scheduler.foldl_opens (fun state id => startRoute_opens state.1 state.2 id) _ _

theorem heroAction_opens (scheduler : Scheduler Activity) (world : World) :
    Opens World.Answers (scheduler, world) (heroAction scheduler world) := by
  unfold heroAction
  split
  · exact .refl _
  · exact Scheduler.foldl_opens (fun state _ => Scheduler.receive_opens state.1 state.2 _) _ _

def opened (scene : MapScene) (world : World) : Scheduler Activity × World :=
  let timed := fireTimeEvents scene.scheduler world
  startRoutes timed.1 timed.2

theorem opened_opens (scene : MapScene) (world : World) :
    Opens World.Declares (scene.scheduler, world) (scene.opened world) := by
  have timed := fireTimeEvents_opens scene.scheduler world
  have routed := startRoutes_opens (fireTimeEvents scene.scheduler world).1
    (fireTimeEvents scene.scheduler world).2
  exact (timed.mono .inl).trans (routed.mono .inr)

end MapScene

end TileScript
