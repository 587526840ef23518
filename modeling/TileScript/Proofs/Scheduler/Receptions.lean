import TileScript.Proofs.Scheduler.Deliveries

namespace TileScript

namespace World

theorem modifyObject_modifyObject (world : World) (id : Nat) (first second : MapObject → MapObject) :
    (world.modifyObject id first).modifyObject id second =
      world.modifyObject id (fun object => second (first object)) := by
  simp only [modifyObject, World.mk.injEq, true_and, and_true]
  refine IdMap.ext_get? fun key => ?_
  simp only [IdMap.get?_modify]
  split <;> simp [Function.comp_def]

theorem object?_modifyObject_isSome (world : World) (id key : Nat)
    (change : MapObject → MapObject) :
    ((world.modifyObject id change).object? key).isSome = (world.object? key).isSome := by
  rw [object?_modifyObject]
  split
  · exact Option.isSome_map
  · rfl

end World

namespace Delivery

/-- How an object looks once it has taken an event: toward the place of the sender, unless that is
its own or its direction is fixed. -/
def facing (senderPosition : Option Position) (object : MapObject) : Orientation :=
  if object.directionFix then object.orientation
  else (senderPosition.bind (Orientation.towards object.position)).getD object.orientation

def taken (senderPosition : Option Position) (count : Nat) (object : MapObject) : MapObject :=
  { object with
    orientation := facing senderPosition object
    pauseCount := min (object.pauseCount + count) counterLimit
    receivedEvent := true }

theorem mark_hold (senderPosition : Option Position) (object : MapObject) :
    mark senderPosition object.hold = taken senderPosition 1 object := by
  unfold mark taken facing MapObject.face MapObject.hold
  cases senderPosition with
  | none =>
    simp only [Option.bind_none, Option.getD_none, ite_self]
    rfl
  | some position =>
    dsimp only [Option.bind_some]
    rw [show MapObject.directionFix { object with pauseCount := countUp object.pauseCount } =
      object.directionFix from rfl]
    split
    · rfl
    · split <;> rename_i turned <;> rw [turned] <;> rfl

theorem taken_taken (senderPosition : Option Position) (count more : Nat) (object : MapObject) :
    taken senderPosition more (taken senderPosition count object) =
      taken senderPosition (count + more) object := by
  have looks : facing senderPosition (taken senderPosition count object) =
      facing senderPosition object := by
    have fixed : (taken senderPosition count object).directionFix = object.directionFix := rfl
    unfold facing
    rw [fixed]
    split
    · rename_i still
      simp [taken, facing, still]
    · rename_i free
      simp only [taken, facing, free]
      cases senderPosition.bind (Orientation.towards object.position) <;> rfl
  have counts : min (min (object.pauseCount + count) counterLimit + more) counterLimit =
      min (object.pauseCount + (count + more)) counterLimit := by
    omega
  rw [taken, looks]
  simp only [taken, counts]

def run {σ : Type} (delivery : Delivery) (candidate : Nat × Reaction) : Run σ :=
  { Run.start candidate.2 (delivery.trigger candidate.1) with holdsPause := true }

end Delivery

namespace Scheduler

variable {σ : Type}

def isFree (scheduler : Scheduler σ) (object : Nat) (reaction : Reaction) : Bool :=
  !reaction.isEmpty && !scheduler.isRunning (some object) reaction

/-- The candidates that are to be started: the free ones, each reaction once, only the first of them
if `single`. -/
def chosen (scheduler : Scheduler σ) (target : Nat) (single : Bool)
    (candidates : List (Nat × Reaction)) : List (Nat × Reaction) :=
  let free := candidates.filter (fun candidate => scheduler.isFree target candidate.2)
  let once := free.eraseDupsBy (fun later earlier => later.2.origin == earlier.2.origin)
  if single then once.take 1 else once

def responses (scheduler : Scheduler σ) (delivery : Delivery) (object : MapObject) :
    List (Nat × Reaction) :=
  scheduler.chosen delivery.target object.model.oneEventPerFrame (delivery.candidates object)

theorem chosen_cons_busy {scheduler : Scheduler σ} {target : Nat} {candidate : Nat × Reaction}
    (busy : scheduler.isFree target candidate.2 = false) (single : Bool)
    (rest : List (Nat × Reaction)) :
    scheduler.chosen target single (candidate :: rest) = scheduler.chosen target single rest := by
  simp only [chosen, List.filter_cons, busy, Bool.false_eq_true, ↓reduceIte]

theorem chosen_single {scheduler : Scheduler σ} {target : Nat} {candidate : Nat × Reaction}
    (free : scheduler.isFree target candidate.2 = true) (rest : List (Nat × Reaction)) :
    scheduler.chosen target true (candidate :: rest) = [candidate] := by
  simp only [chosen, List.filter_cons, free, ↓reduceIte, List.eraseDupsBy_cons]
  rfl

/-- What is started first is not started again. -/
theorem chosen_cons {scheduler : Scheduler σ} {delivery : Delivery} {candidate : Nat × Reaction}
    (free : scheduler.isFree delivery.target candidate.2 = true) (rest : List (Nat × Reaction)) :
    scheduler.chosen delivery.target false (candidate :: rest) =
      candidate :: chosen { scheduler with
        blocking := scheduler.blocking ++ [delivery.run candidate] } delivery.target false rest := by
  simp only [chosen, List.filter_cons, free, Bool.false_eq_true, ↓reduceIte,
    List.eraseDupsBy_cons, List.filter_filter]
  congr 2
  refine List.filter_congr fun other _ => ?_
  have same : (other.2.origin == candidate.2.origin) = (candidate.2.origin == other.2.origin) :=
    Bool.beq_comm
  simp only [isFree, isRunning, List.any_append, List.any_cons, List.any_nil, Delivery.run,
    Delivery.trigger, Run.start, Bool.or_false, beq_self_eq_true, Bool.true_and, same]
  cases candidate.2.origin == other.2.origin <;> simp

/-- A free reaction is started for an object on the map, and holds it. -/
theorem add?_free {scheduler : Scheduler σ} {world : World} {delivery : Delivery}
    {candidate : Nat × Reaction} (free : scheduler.isFree delivery.target candidate.2 = true)
    (present : (world.object? delivery.target).isSome = true) :
    scheduler.add? world candidate.2 (delivery.trigger candidate.1) false =
      some ({ scheduler with blocking := scheduler.blocking ++ [delivery.run candidate] },
        world.modifyObject delivery.target MapObject.hold) := by
  rw [isFree, ← Bool.not_or, Bool.not_eq_true'] at free
  unfold add?
  refine (if_neg (Bool.eq_false_iff.mp free)).trans ?_
  simp only [Delivery.trigger, Bool.false_eq_true, ↓reduceIte, Option.filter_some, present]
  rfl

theorem add?_busy {scheduler : Scheduler σ} {delivery : Delivery} {candidate : Nat × Reaction}
    (busy : scheduler.isFree delivery.target candidate.2 = false) (world : World) :
    scheduler.add? world candidate.2 (delivery.trigger candidate.1) false = none := by
  rw [isFree, ← Bool.not_or, Bool.not_eq_false'] at busy
  unfold add?
  exact if_pos busy

def taking (target : Nat) (senderPosition : Option Position) (count : Nat) (world : World) :
    World :=
  if count = 0 then world
  else world.modifyObject target (Delivery.taken senderPosition count)

theorem taking_modifyObject (target : Nat) (senderPosition : Option Position) (count : Nat)
    (world : World) :
    taking target senderPosition count
        (world.modifyObject target (Delivery.taken senderPosition 1)) =
      taking target senderPosition (count + 1) world := by
  unfold taking
  rw [if_neg (Nat.succ_ne_zero count)]
  split
  · rename_i none
    rw [none]
  · rw [World.modifyObject_modifyObject]
    congr 1
    funext object
    rw [Delivery.taken_taken, Nat.add_comm]

/-- Starting candidates starts those that are to be started, and the object takes the event if
there is one. -/
theorem startEach_eq (delivery : Delivery) (senderPosition : Option Position) (single : Bool)
    (candidates : List (Nat × Reaction)) (scheduler : Scheduler σ) {world : World}
    (present : (world.object? delivery.target).isSome = true) :
    let chosen := scheduler.chosen delivery.target single candidates
    startEach delivery senderPosition single candidates scheduler world =
      (!chosen.isEmpty,
        { scheduler with blocking := scheduler.blocking ++ chosen.map delivery.run },
        taking delivery.target senderPosition chosen.length world) := by
  induction candidates generalizing scheduler world with
  | nil => cases single <;> simp [startEach, chosen, taking]
  | cons candidate rest ih =>
    dsimp only
    cases free : scheduler.isFree delivery.target candidate.2 with
    | false =>
      rw [startEach, add?_busy free, chosen_cons_busy free]
      exact ih scheduler present
    | true =>
      rw [startEach, add?_free free present]
      dsimp only
      rw [World.modifyObject_modifyObject]
      simp only [Delivery.mark_hold]
      cases single with
      | true =>
        rw [chosen_single free]
        simp [taking]
      | false =>
        rw [chosen_cons free, ih]
        · simp [taking_modifyObject]
        · rw [World.object?_modifyObject_isSome]
          exact present

theorem admits_iff {scheduler : Scheduler σ} {delivery : Delivery} {object : MapObject} :
    scheduler.admits delivery object = true ↔ object.removed = false ∧
      (object.model.oneEventPerFrame = true → object.receivedEvent = false) ∧
      (object.model.triggerableByOthers = false → ∀ run ∈ scheduler.runs, run.moving = false →
        run.trigger.object = some delivery.target ∨ run.trigger.object = delivery.sender) := by
  have alone : scheduler.boundElsewhere delivery.target delivery.sender = false ↔
      ∀ run ∈ scheduler.runs, run.moving = false →
        run.trigger.object = some delivery.target ∨ run.trigger.object = delivery.sender := by
    simp only [boundElsewhere, List.any_eq_false, Bool.and_eq_true, bne_iff_ne, Bool.not_eq_true',
      not_and, not_not, ne_eq, and_imp, or_iff_not_imp_left]
  rw [← alone]
  unfold admits
  cases object.removed <;> cases object.model.oneEventPerFrame <;> cases object.receivedEvent <;>
    cases object.model.triggerableByOthers <;> simp

/-- A delivery does nothing, or its target takes the event and starts something. -/
theorem receive_cases (scheduler : Scheduler σ) (world : World) (delivery : Delivery) :
    (scheduler.receive world delivery = (false, scheduler, world) ∧
      ∀ object, world.object? delivery.target = some object →
        scheduler.admits delivery object = true → scheduler.responses delivery object = []) ∨
    ∃ object, world.object? delivery.target = some object ∧
      scheduler.admits delivery object = true ∧ scheduler.responses delivery object ≠ [] ∧
      let responses := scheduler.responses delivery object
      scheduler.receive world delivery =
        (true,
          { scheduler with blocking := scheduler.blocking ++ responses.map delivery.run },
          world.modifyObject delivery.target
            (Delivery.taken (delivery.senderPosition? world) responses.length)) := by
  unfold receive
  cases present : world.object? delivery.target with
  | none => exact .inl ⟨rfl, fun _ found => nomatch found⟩
  | some object =>
    dsimp only
    cases admitted : scheduler.admits delivery object with
    | false =>
      refine .inl ⟨rfl, fun other found takes => ?_⟩
      cases found
      cases admitted.symm.trans takes
    | true =>
      have started := startEach_eq delivery (delivery.senderPosition? world)
        object.model.oneEventPerFrame (delivery.candidates object) scheduler
        (Option.isSome_of_eq_some present)
      rw [if_pos rfl, started]
      by_cases none : scheduler.responses delivery object = []
      · refine .inl ⟨?_, fun other found _ => ?_⟩
        · unfold responses at none
          simp [none, taking]
        · cases found
          exact none
      · refine .inr ⟨object, rfl, admitted, none, ?_⟩
        unfold responses at none ⊢
        simp [none, taking]

/-- An event starts something exactly if its target is on the map and not marked removed, has an
event left in this frame, is not kept busy by others, and binds a reaction to it that can start. If
it starts nothing, nothing has happened. If it starts something, then exactly those reactions, each
holding the target's movement, and the target turns to the sender and has received an event. -/
theorem receive_starts_responses (scheduler : Scheduler σ) (world : World) (delivery : Delivery) :
    let outcome := scheduler.receive world delivery
    (outcome.1 = true ↔ ∃ object, world.object? delivery.target = some object ∧
      object.removed = false ∧
      (object.model.oneEventPerFrame = true → object.receivedEvent = false) ∧
      (object.model.triggerableByOthers = false → ∀ run ∈ scheduler.runs, run.moving = false →
        run.trigger.object = some delivery.target ∨ run.trigger.object = delivery.sender) ∧
      scheduler.responses delivery object ≠ []) ∧
    (outcome.1 = false → outcome.2 = (scheduler, world)) ∧
    (outcome.1 = true → ∀ object, world.object? delivery.target = some object →
      let responses := scheduler.responses delivery object
      outcome.2 =
        ({ scheduler with blocking := scheduler.blocking ++ responses.map delivery.run },
          world.modifyObject delivery.target
            (Delivery.taken (delivery.senderPosition? world) responses.length))) := by
  dsimp only
  rcases receive_cases scheduler world delivery with ⟨same, idle⟩ |
    ⟨object, present, admitted, some, same⟩
  · rw [same]
    refine ⟨iff_of_false Bool.false_ne_true ?_, fun _ => rfl, fun started => nomatch started⟩
    rintro ⟨object, present, here, left, alone, some⟩
    exact some (idle object present (admits_iff.mpr ⟨here, left, alone⟩))
  · rw [same]
    obtain ⟨here, left, alone⟩ := admits_iff.mp admitted
    refine ⟨iff_of_true rfl ⟨object, present, here, left, alone, some⟩,
      fun idle => (nomatch idle), fun _ other found => ?_⟩
    cases present.symm.trans found
    rfl

def chime : Reaction :=
  ⟨.handler (.placed 1 1) 0 1, "porch chime", .single (.showText none "Ding!"), false⟩

def bark : Reaction :=
  ⟨.handler (.placed 1 1) 0 2, "porch bark", .single (.showText none "Woof!"), false⟩

def porch : World :=
  let bound : Handler := ⟨true, actionEvent, [], .ofList [(1, chime), (2, bark)]⟩
  let empty := World.insertObject {} (MapObject.create 0 "visitor" ⟨1, 0⟩ {})
  empty.insertObject { MapObject.create 1 "porch" ⟨0, 0⟩
    { states := [⟨1, false, none⟩, ⟨2, false, none⟩], handlers := [bound] } with states := [1, 2] }

def ring : Delivery := ⟨some 0, 1, true, actionEvent, []⟩

theorem porch_answers_twice :
    let outcome := ({} : Scheduler Activity).receive porch ring
    outcome.1 = true ∧
      outcome.2.1.blocking.map (fun run => (run.reaction.name, run.trigger.state)) =
        [("porch chime", some 1), ("porch bark", some 2)] ∧
      (outcome.2.2.object? 1).map (fun object => (object.pauseCount, object.orientation)) =
        some (2, .right) := by
  obtain ⟨_, _, starts⟩ := receive_starts_responses ({} : Scheduler Activity) porch ring
  have started : (({} : Scheduler Activity).receive porch ring).1 = true := by decide +kernel
  obtain ⟨object, present⟩ : ∃ object, porch.object? 1 = some object := ⟨_, rfl⟩
  have same := starts started object present
  refine ⟨started, ?_, ?_⟩
  · rw [same]
    cases present
    decide +kernel
  · rw [same]
    cases present
    decide +kernel

end Scheduler

end TileScript
