import TileScript.Proofs.Scheduler.Deliveries
import TileScript.Proofs.Scheduler.Passes

namespace TileScript

open Scheduler (Started)
open World (Alike)

def MapObject.standing (object : MapObject) : ObjectModel × List Nat × Bool × List Clock :=
  (object.model, object.states, object.removed, object.clocks)

theorem MapObject.unseen_standing : Delivery.Unseen MapObject.standing :=
  ⟨fun _ => rfl, fun _ _ => rfl⟩

namespace MapScene

variable {id : Nat} {object : MapObject}

def timeDelivery (id : Nat) (parameters : List Value) : Delivery :=
  ⟨some id, id, true, timeEvent, parameters⟩

def deliverDue (id : Nat) (clocks : List (Nat × List Value))
    (state : Scheduler Activity × World) : Scheduler Activity × World :=
  clocks.foldl (fun state clock => (state.1.receive state.2 (timeDelivery id clock.2)).2) state

def wakes (id : Nat) (state : Scheduler Activity × World) (clock : Nat × List Value) : Bool :=
  (state.1.receive state.2 (timeDelivery id clock.2)).1

/-- The clocks that are served are the first ones that each start something on their turn. -/
theorem fireDue_served (id : Nat) (due : List (Nat × List Value)) (scheduler : Scheduler Activity)
    (world : World) :
    let fired := fireDue id due scheduler world
    let served := fired.1.length
    fired.1 = (due.take served).map Prod.fst ∧
      fired.2.1 = (deliverDue id (due.take served) (scheduler, world)).1 ∧
      fired.2 = deliverDue id (due.take (served + 1)) (scheduler, world) ∧
      (∀ place clock, due[place]? = some clock →
        (place < served →
          wakes id (deliverDue id (due.take place) (scheduler, world)) clock = true) ∧
        (place = served →
          wakes id (deliverDue id (due.take place) (scheduler, world)) clock = false)) := by
  induction due generalizing scheduler world with
  | nil =>
    refine ⟨rfl, rfl, rfl, fun _ _ none => ?_⟩
    cases none
  | cons clock rest ih =>
    obtain ⟨index, parameters⟩ := clock
    rw [fireDue]
    dsimp only
    cases woken : (scheduler.receive world ⟨some id, id, true, timeEvent, parameters⟩).1 with
    | false =>
      rw [if_neg Bool.false_ne_true]
      refine ⟨rfl, Scheduler.receive_refused woken, rfl, fun place clock found => ?_⟩
      refine ⟨fun before => absurd before (Nat.not_lt_zero _), ?_⟩
      rintro rfl
      cases found
      exact woken
    | true =>
      rw [if_pos rfl]
      obtain ⟨fired, scheduled, left, turns⟩ := ih
        (scheduler.receive world ⟨some id, id, true, timeEvent, parameters⟩).2.1
        (scheduler.receive world ⟨some id, id, true, timeEvent, parameters⟩).2.2
      refine ⟨congrArg (index :: ·) fired, scheduled, left, fun place clock found => ?_⟩
      cases place with
      | zero =>
        cases found
        exact ⟨fun _ => woken, fun none => absurd none.symm (Nat.succ_ne_zero _)⟩
      | succ place =>
        obtain ⟨before, last⟩ := turns place clock found
        exact ⟨fun less => before (Nat.lt_of_succ_lt_succ less),
          fun same => last (Nat.succ.inj same)⟩

theorem offers_congr {later : MapObject} (same : later.standing = object.standing)
    (delivery : Delivery) : delivery.offers later = delivery.offers object := by
  simp only [MapObject.standing, Prod.mk.injEq] at same
  rw [Delivery.offers, Delivery.candidates, same.1, same.2.1]
  rfl

def dueOffers (id : Nat) (object : MapObject) (clocks : List (Nat × List Value)) :
    List (Reaction × Trigger) :=
  clocks.flatMap (fun clock => (timeDelivery id clock.2).offers object)

theorem dueOffers_congr {later : MapObject} (same : later.standing = object.standing)
    (clocks : List (Nat × List Value)) :
    dueOffers id later clocks = dueOffers id object clocks := by
  simp only [dueOffers, offers_congr same]

theorem object_of_mem_dueOffers {clocks : List (Nat × List Value)} {offer : Reaction × Trigger}
    (offered : offer ∈ dueOffers id object clocks) : offer.2.object = some id := by
  obtain ⟨clock, _, offered⟩ := List.mem_flatMap.mp offered
  exact Delivery.object_of_mem_offers offered

theorem admits_congr {first second : Scheduler Activity} {runs : List (Run Activity)}
    {offers : List (Reaction × Trigger)} {later : MapObject}
    (started : Started offers first second runs)
    (own : ∀ offer ∈ offers, offer.2.object = some id)
    (same : later.standing = object.standing) (many : object.model.oneEventPerFrame = false)
    (parameters : List Value) :
    second.admits (timeDelivery id parameters) later =
      first.admits (timeDelivery id parameters) object := by
  simp only [MapObject.standing, Prod.mk.injEq] at same
  simp only [Scheduler.admits, timeDelivery, started.boundElsewhere_eq own, same.1, same.2.2.1,
    many, Bool.false_and]

theorem deliverDue_started (scheduler : Scheduler Activity) {world : World}
    (present : world.object? id = some object) (clocks : List (Nat × List Value)) :
    let after := deliverDue id clocks (scheduler, world)
    Alike MapObject.standing world after.2 ∧
    (∃ runs, Started (dueOffers id object clocks) scheduler after.1 runs) ∧
    (∀ parameters, scheduler.admits (timeDelivery id parameters) object = true →
      object.model.oneEventPerFrame = false → ∀ offer ∈ dueOffers id object clocks,
        offer.1.isEmpty = false → after.1.isRunning (some id) offer.1 = true) := by
  induction clocks generalizing scheduler world object with
  | nil => exact ⟨.refl world, ⟨[], .none _ _⟩, fun _ _ _ _ member => nomatch member⟩
  | cons clock rest ih =>
    have alike := Scheduler.receive_alike MapObject.unseen_standing scheduler world
      (timeDelivery id clock.2)
    obtain ⟨runs, started, _, _, running⟩ :=
      Scheduler.receive_started scheduler (timeDelivery id clock.2) present
    have own : ∀ offer ∈ (timeDelivery id clock.2).offers object, offer.2.object = some id :=
      fun _ => Delivery.object_of_mem_offers
    obtain ⟨later, found, same⟩ := alike.object? present
    obtain ⟨others, ⟨more, next⟩, rest_running⟩ := ih _ found
    rw [dueOffers_congr same] at next rest_running
    refine ⟨alike.trans others, ⟨runs ++ more, ?_⟩, fun parameters admits many => ?_⟩
    · exact (started.mono fun _ => List.mem_append_left _).trans
        (next.mono fun _ => List.mem_append_right _)
    · intro offer offered commands
      rcases List.mem_append.mp offered with here | there
      · exact next.isRunning_iff.mpr (.inl (running admits many offer here commands))
      · refine rest_running parameters ?_ ?_ offer there commands
        · exact (admits_congr started own same many parameters).trans admits
        · simp only [MapObject.standing, Prod.mk.injEq] at same
          rw [same.1]
          exact many

theorem object?_advanced {world : World} (present : world.object? id = some object) :
    (world.modifyObject id MapObject.advanceClocks).object? id = some object.advanceClocks := by
  rw [World.object?_modifyObject, if_pos rfl, present]
  rfl

theorem tickClocks_eq (scheduler : Scheduler Activity) {world : World}
    (present : world.object? id = some object) (here : object.removed = false) :
    let fired := fireDue id (Clock.due object.advanceClocks.clocks) scheduler
      (world.modifyObject id MapObject.advanceClocks)
    tickClocks scheduler world id =
      (fired.2.1, fired.2.2.modifyObject id (·.fireClocks fired.1)) := by
  unfold tickClocks
  rw [present]
  dsimp only
  rw [if_neg (by rw [here]; exact Bool.false_ne_true)]

def Serves (id : Nat) (object : MapObject) (clock : Nat × List Value) (run : Run Activity) : Prop :=
  run.trigger.object = some id ∧ ∃ handler ∈ object.model.handlers,
    handler.answers true timeEvent clock.2 = true ∧
    ∃ state ∈ object.states, ∃ reaction, handler.reactions.get? state = some reaction ∧
      run.reaction.origin = reaction.origin

theorem Serves.of_offer {clock : Nat × List Value} {run : Run Activity} {offer : Reaction × Trigger}
    (offered : offer ∈ (timeDelivery id clock.2).offers object)
    (bound : run.trigger.object = some id) (plays : run.reaction.origin = offer.1.origin) :
    Serves id object clock run := by
  obtain ⟨state, active, handler, known, answers, reacts, _⟩ := Delivery.mem_offers offered
  exact ⟨bound, handler, known, answers, state, active, offer.1, reacts, plays⟩

/-- Some clocks are served when an object's clocks tick: the first due ones that each start
something on their turn. Every run that is started serves one of them, and each due clock that would start
something by itself is served by one, unless it comes after the first that starts nothing. -/
structure Rounds (id : Nat) (object : MapObject) (state : Scheduler Activity × World)
    (due : List (Nat × List Value)) (served : Nat) (started : List (Run Activity)) : Prop where
  turns : ∀ place clock, due[place]? = some clock →
    (place < served → wakes id (deliverDue id (due.take place) state) clock = true) ∧
    (place = served → wakes id (deliverDue id (due.take place) state) clock = false)
  reach : ∀ place clock, due[place]? = some clock → place ≤ served →
    wakes id state clock = true → ∃ run ∈ started, Serves id object clock run
  sources : ∀ run ∈ started, ∃ place clock, place < served ∧ due[place]? = some clock ∧
    Serves id object clock run

theorem mem_take_iff {α : Type} {items : List α} {bound : Nat} {item : α} :
    item ∈ items.take bound ↔ ∃ place, place < bound ∧ items[place]? = some item := by
  simp only [List.mem_iff_getElem?, List.getElem?_take, Option.ite_none_right_eq_some]

theorem tickClocks_rounds (scheduler : Scheduler Activity) {world : World}
    (present : world.object? id = some object) (here : object.removed = false)
    (many : object.model.oneEventPerFrame = false) :
    ∃ served started,
      (tickClocks scheduler world id).1 =
        { scheduler with blocking := scheduler.blocking ++ started } ∧
      Rounds id object (scheduler, world.modifyObject id MapObject.advanceClocks)
        (Clock.due object.advanceClocks.clocks) served started := by
  have advanced := object?_advanced present
  obtain ⟨_, scheduled, left, turns⟩ := fireDue_served id (Clock.due object.advanceClocks.clocks)
    scheduler (world.modifyObject id MapObject.advanceClocks)
  rw [tickClocks_eq scheduler present here]
  generalize fireDue id _ scheduler _ = fired at scheduled left turns ⊢
  obtain ⟨_, ⟨started, begun⟩, _⟩ := deliverDue_started scheduler advanced
    ((Clock.due object.advanceClocks.clocks).take fired.1.length)
  obtain ⟨_, _, running⟩ := deliverDue_started scheduler advanced
    ((Clock.due object.advanceClocks.clocks).take (fired.1.length + 1))
  rw [← scheduled] at begun
  rw [← left] at running
  refine ⟨fired.1.length, started, begun.scheduler, turns, ?_, ?_⟩
  · intro place clock found within woken
    obtain ⟨runs, fresh, any, admits, _⟩ :=
      Scheduler.receive_started scheduler (timeDelivery id clock.2) advanced
    obtain ⟨run, member⟩ := List.exists_mem_of_ne_nil runs (any.mp woken)
    obtain ⟨commands, idle⟩ := fresh.fresh run member
    have offered := fresh.plays run member
    have bound : run.trigger.object = some id := Delivery.object_of_mem_offers offered
    rw [bound] at idle
    -- The reaction is running in the end and was not before, so it has been started in between.
    have busy := running clock.2 (admits woken) many _ (List.mem_flatMap.mpr
      ⟨clock, mem_take_iff.mpr ⟨place, Nat.lt_succ_of_le within, found⟩, offered⟩) commands
    rcases begun.isRunning_iff.mp busy with before | ⟨later, among, own, plays⟩
    · rw [idle] at before
      cases before
    · exact ⟨later, among, Serves.of_offer offered own plays⟩
  · intro run member
    obtain ⟨clock, listed, offered⟩ := List.mem_flatMap.mp (begun.plays run member)
    obtain ⟨place, below, found⟩ := mem_take_iff.mp listed
    exact ⟨place, clock, below, found,
      Serves.of_offer offered (Delivery.object_of_mem_offers offered) rfl⟩

def tickAll (ids : List Nat) (state : Scheduler Activity × World) : Scheduler Activity × World :=
  ids.foldl (fun state id => tickClocks state.1 state.2 id) state

theorem tickAll_blocking (ids : List Nat) (state : Scheduler Activity × World) :
    ∃ started, (tickAll ids state).1.blocking = state.1.blocking ++ started := by
  obtain ⟨started, grown, _⟩ := (Scheduler.foldl_opens
    (fun state id => tickClocks_opens state.1 state.2 id) ids state).blocking_eq
  exact ⟨started, grown⟩

/--
When the clocks of an object tick that takes more than one event, its due clocks are served up to
the first that starts nothing on its turn. Whatever the clocks after that one would start has to wait.
-/
theorem due_clocks_served (scheduler : Scheduler Activity) (world : World) {before after : List Nat}
    (order : world.objects.ids = before ++ id :: after)
    (present : (tickAll before (scheduler, world)).2.object? id = some object)
    (here : object.removed = false) (many : object.model.oneEventPerFrame = false) :
    let reached := tickAll before (scheduler, world)
    ∃ earlier served started later,
      reached.1.blocking = scheduler.blocking ++ earlier ∧
      (fireTimeEvents scheduler world).1.blocking =
        scheduler.blocking ++ earlier ++ started ++ later ∧
      Rounds id object (reached.1, reached.2.modifyObject id MapObject.advanceClocks)
        (Clock.due object.advanceClocks.clocks) served started := by
  intro reached
  obtain ⟨earlier, grown⟩ := tickAll_blocking before (scheduler, world)
  obtain ⟨served, started, ticked, rounds⟩ := tickClocks_rounds reached.1 present here many
  obtain ⟨later, rest⟩ := tickAll_blocking after (tickClocks reached.1 reached.2 id)
  refine ⟨earlier, served, started, later, grown, ?_, rounds⟩
  have split : fireTimeEvents scheduler world =
      tickAll after (tickClocks reached.1 reached.2 id) := by
    unfold fireTimeEvents
    rw [order, List.foldl_append]
    rfl
  rw [split, rest, ticked, ← grown]

end MapScene

def bell : MapObject :=
  let rings (index state : Nat) : IdMap Reaction :=
    .ofList [(state, ⟨.handler (.placed 1 1) index state, "ring",
      .single (.setVariable state .set (.constant (.bool true))), false⟩)]
  { MapObject.create 1 "bell" ⟨0, 0⟩ {
      states := [⟨1, false, none⟩, ⟨2, false, none⟩]
      handlers := [⟨true, timeEvent, [some (.number 1), some (.bool true)], rings 0 2⟩,
        ⟨true, timeEvent, [some (.number 2), some (.bool true)], rings 1 1⟩] } with
    clocks := [⟨1, true, 1, [.number 1, .bool true]⟩, ⟨2, true, 1, [.number 2, .bool true]⟩] }

theorem bell_waits :
    let world : World := World.insertObject {} bell
    MapScene.wakes 1 ({}, world.modifyObject 1 MapObject.advanceClocks)
        (1, [.number 2, .bool true]) = true ∧
      (MapScene.fireTimeEvents {} world).1.blocking.length = 0 ∧
      ∃ served started,
        MapScene.Rounds 1 bell ({}, world.modifyObject 1 MapObject.advanceClocks)
          [(0, [.number 1, .bool true]), (1, [.number 2, .bool true])] served started := by
  have order : (World.insertObject {} bell).objects.ids = [] ++ 1 :: [] := rfl
  refine ⟨by decide +kernel, by decide +kernel, ?_⟩
  obtain ⟨_, served, started, _, _, _, rounds⟩ :=
    MapScene.due_clocks_served {} (World.insertObject {} bell) order rfl rfl rfl
  exact ⟨served, started, rounds⟩

end TileScript
