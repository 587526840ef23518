import TileScript.Run.Basic

namespace TileScript

structure Scheduler (σ : Type) where
  blocking : List (Run σ) := []
  parallel : List (Run σ) := []
  /-- Whether the hero cannot be controlled, as of the beginning of the last tick. -/
  blocksHero : Bool := false
  diagnostics : List Diagnostic := []
  notes : List String := []

namespace Scheduler

variable {σ : Type}

def runs (scheduler : Scheduler σ) : List (Run σ) := scheduler.blocking ++ scheduler.parallel

def isIdle (scheduler : Scheduler σ) : Bool :=
  scheduler.blocking.isEmpty && scheduler.parallel.isEmpty

def isRunning (scheduler : Scheduler σ) (object : Option Nat) (reaction : Reaction) : Bool :=
  scheduler.blocking.any (fun run =>
    run.trigger.object == object && run.reaction.origin == reaction.origin)

def boundElsewhere (scheduler : Scheduler σ) (object : Nat) (sender : Option Nat) : Bool :=
  scheduler.runs.any (fun run =>
    !run.moving && run.trigger.object != some object && run.trigger.object != sender)

/--
Starts a reaction unless it has no commands or runs already for the same object. A run that is not a
movement route holds the movement of its object until it is over.
-/
def add? (scheduler : Scheduler σ) (world : World) (reaction : Reaction) (trigger : Trigger)
    (moving : Bool) : Option (Scheduler σ × World) :=
  if reaction.isEmpty || scheduler.isRunning trigger.object reaction then none
  else
    let started : Run σ := { Run.start reaction trigger with moving := moving }
    match if moving then none else trigger.object.filter (fun id => (world.object? id).isSome) with
    | some object =>
      some ({ scheduler with
          blocking := scheduler.blocking ++ [{ started with holdsPause := true }] },
        world.modifyObject object MapObject.hold)
    | none => some ({ scheduler with blocking := scheduler.blocking ++ [started] }, world)

def listen (language : Language σ) (scheduler : Scheduler σ) (event : InputEvent) : Scheduler σ :=
  let blocking := scheduler.blocking.map (·.listen language event)
  let parallel := scheduler.parallel.map (·.listen language event)
  { scheduler with
    blocking := blocking.map (·.1)
    parallel := parallel.map (·.1)
    notes := scheduler.notes ++ (blocking ++ parallel).flatMap (·.2) }

def draw (language : Language σ) (scheduler : Scheduler σ) : List String :=
  scheduler.runs.flatMap (·.draw language)

def close (scheduler : Scheduler σ) (world : World) : Scheduler σ × World :=
  ({ scheduler with blocking := [], parallel := [], blocksHero := false },
    scheduler.runs.foldl (fun world run => (run.forceFinish world).2) world)

end Scheduler

end TileScript
