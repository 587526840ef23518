import TileScript.Scheduler.Basic

namespace TileScript

structure Delivery where
  sender : Option Nat
  target : Nat
  system : Bool
  event : Nat
  parameters : List Value

namespace Delivery

def trigger (delivery : Delivery) (state : Nat) : Trigger where
  sender := delivery.sender
  object := some delivery.target
  state := some state
  event := some delivery.event
  parameters := delivery.parameters

/-- The reactions an object binds to the event, each with its state: by active state, then by
handler. -/
def candidates (delivery : Delivery) (object : MapObject) : List (Nat × Reaction) :=
  object.states.flatMap (fun state =>
    (object.model.reactionsFor delivery.system delivery.event state delivery.parameters).map
      (fun reaction => (state, reaction)))

def senderPosition? (delivery : Delivery) (world : World) : Option Position :=
  ((delivery.sender.filter (· != delivery.target)).bind world.object?).map (·.position)

def mark (senderPosition : Option Position) (object : MapObject) : MapObject :=
  let turned :=
    match senderPosition with
    | some position => if object.directionFix then object else object.face position
    | none => object
  { turned with receivedEvent := true }

end Delivery

namespace Scheduler

variable {σ : Type}

def startEach (delivery : Delivery) (senderPosition : Option Position) (single : Bool) :
    List (Nat × Reaction) → Scheduler σ → World → Bool × Scheduler σ × World
  | [], scheduler, world => (false, scheduler, world)
  | (state, reaction) :: rest, scheduler, world =>
    match scheduler.add? world reaction (delivery.trigger state) false with
    | none => startEach delivery senderPosition single rest scheduler world
    | some (started, held) =>
      let marked := held.modifyObject delivery.target (Delivery.mark senderPosition)
      if single then (true, started, marked)
      else (true, (startEach delivery senderPosition single rest started marked).2)

/-- Whether an object takes an event: it is not marked removed, has an event left in this frame, and
is not kept busy by runs of others. -/
def admits (scheduler : Scheduler σ) (delivery : Delivery) (object : MapObject) : Bool :=
  !object.removed &&
    !(object.model.oneEventPerFrame && object.receivedEvent) &&
    (object.model.triggerableByOthers ||
      !scheduler.boundElsewhere delivery.target delivery.sender)

def receive (scheduler : Scheduler σ) (world : World) (delivery : Delivery) :
    Bool × Scheduler σ × World :=
  match world.object? delivery.target with
  | none => (false, scheduler, world)
  | some object =>
    if scheduler.admits delivery object then
      startEach delivery (delivery.senderPosition? world) object.model.oneEventPerFrame
        (delivery.candidates object) scheduler world
    else (false, scheduler, world)

def receivers (world : World) : EventTarget → List Nat
  | .allExcept excluded => world.objects.ids.filter (fun id => some id != excluded)
  | .object id => [id]

def deliverTo (request : EventRequest) :
    List Nat → Scheduler σ → World → Nat × Scheduler σ × World
  | [], scheduler, world => (0, scheduler, world)
  | target :: rest, scheduler, world =>
    let received := scheduler.receive world
      ⟨request.sender, target, request.system, request.event, request.parameters⟩
    let others := deliverTo request rest received.2.1 received.2.2
    ((if received.1 then 1 else 0) + others.1, others.2)

def send (scheduler : Scheduler σ) (world : World) (request : EventRequest) :
    Nat × Scheduler σ × World :=
  deliverTo request (receivers world request.target) scheduler world

end Scheduler

end TileScript
