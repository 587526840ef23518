import TileScript.Scheduler.Delivery

namespace TileScript.Scheduler

variable {σ : Type}

/-- Ticks the reactions in order, up to the first one that asks for another map. Those that are over
leave, giving back their holds. -/
def passBlocking (language : Language σ) : List (Run σ) → Stage → List (Run σ) × Stage
  | [], stage => ([], stage)
  | run :: rest, stage =>
    let ticked := run.tick language stage
    let after :=
      if ticked.1.isFinished then
        { ticked.2 with world := (ticked.1.tearDown ticked.2.world).2 }
      else ticked.2
    let kept := if ticked.1.isFinished then [] else [ticked.1]
    if after.effects.scene.isSome then (kept ++ rest, after)
    else
      let others := passBlocking language rest after
      (kept ++ others.1, others.2)

def passParallel (language : Language σ) : List (Run σ) → Stage → List (Run σ) × Stage
  | [], stage => ([], stage)
  | run :: rest, stage =>
    let ticked := run.tick language stage
    let left := ticked.1.node? != run.node?
    let after :=
      if left then { ticked.2 with world := (ticked.1.tearDown ticked.2.world).2 } else ticked.2
    let others := passParallel language rest after
    (if left then others.1 else ticked.1 :: others.1, others.2)

def deliverAll : List EventRequest → Scheduler σ → World → Scheduler σ × World
  | [], scheduler, world => (scheduler, world)
  | request :: rest, scheduler, world =>
    let sent := scheduler.send world request
    deliverAll rest sent.2.1 sent.2.2

def collect (scheduler : Scheduler σ) (effects : Effects) : Scheduler σ :=
  { scheduler with
    diagnostics := scheduler.diagnostics ++ effects.diagnostics
    notes := scheduler.notes ++ effects.notes }

def commit (scheduler : Scheduler σ) (stage : Stage) : Scheduler σ × World :=
  let collected := scheduler.collect stage.effects
  let forked := { collected with
    parallel := collected.parallel ++
      stage.effects.forks.map (fun fork => Run.beside fork.reaction fork.trigger fork.node) }
  deliverAll stage.effects.events forked stage.world

/--
One tick of all runs. If a reaction asks for another map, the request is answered at once: the rest
of the pass, its forks and its events are dropped.
-/
def update (language : Language σ) (scheduler : Scheduler σ) (world : World) :
    Option SceneRequest × Scheduler σ × World :=
  let begun := { scheduler with blocksHero := scheduler.blocking.any (·.reaction.blocksHero) }
  let blocked := passBlocking language begun.blocking ⟨world, {}⟩
  let survived := { begun with blocking := blocked.1 }
  match blocked.2.effects.scene with
  | some request => (some request, survived.collect blocked.2.effects, blocked.2.world)
  | none =>
    let committed := survived.commit blocked.2
    let besides := passParallel language committed.1.parallel ⟨committed.2, {}⟩
    let finished := { committed.1 with parallel := besides.1 }.commit besides.2
    (besides.2.effects.scene, finished.1, finished.2)

end TileScript.Scheduler
