import TileScript.Input.Event
import TileScript.Run.Effects

namespace TileScript

inductive Flow where
  /-- Stay; on coming back from the children the command is entered afresh. -/
  | stay
  /-- Go on this many steps of the walk; no step at all means to stay. -/
  | advance (steps : Nat)
  | finish
  deriving DecidableEq

def Flow.next : Flow := .advance 1

structure Context where
  tree : Tree Command
  node : Nat
  trigger : Trigger
  moving : Bool
  depth : Nat

/-- The behaviour of commands. A command has a state of type `σ` from the first tick it is under the
cursor until the cursor moves on. -/
structure Language (σ : Type) where
  runsBeside : Command → Bool
  begin : Context → Command → Stage → Except Failure σ × Stage
  perform : Context → Command → σ → Stage → Except Failure (Flow × σ) × Stage
  childrenDone : Context → Command → Stage → Except Failure Flow × Stage
  listen : Command → InputEvent → σ → σ × List String
  draw : Command → σ → List String

structure Run (σ : Type) where
  reaction : Reaction
  trigger : Trigger
  cursor : Option Cursor
  state : Option σ := none
  isParallel : Bool := false
  moving : Bool := false
  holdsPause : Bool := false
  tornDown : Bool := false
  failed : Bool := false
  depth : Nat := 0

inductive Status where
  | running
  | awaiting
  | finished
  | failed
  deriving DecidableEq

namespace Run

variable {σ : Type}

def start (reaction : Reaction) (trigger : Trigger) : Run σ where
  reaction := reaction
  trigger := trigger
  cursor := reaction.tree.start?

def beside (reaction : Reaction) (trigger : Trigger) (node : Nat) : Run σ where
  reaction := reaction
  trigger := trigger
  cursor := some (.enter node)
  isParallel := true

def tree (run : Run σ) : Tree Command := run.reaction.tree

def node? (run : Run σ) : Option Nat := run.cursor.map (·.node)

def isFinished (run : Run σ) : Bool := run.cursor.isNone

def status (run : Run σ) : Status :=
  match run.cursor, run.state with
  | none, _ => if run.failed then .failed else .finished
  | some _, some _ => .awaiting
  | some _, none => .running

def command? (run : Run σ) : Option Command := run.node?.bind run.tree.item?

def context (run : Run σ) (node : Nat) : Context :=
  ⟨run.tree, node, run.trigger, run.moving, run.depth⟩

def stop (run : Run σ) : Run σ := { run with cursor := none, state := none }

/-- Stops on a failure and records it, unless a called reaction has recorded it already. -/
def fail (run : Run σ) (node : Nat) (command : Command) (failure : Failure) (stage : Stage) :
    Run σ × Stage :=
  let stopped := { run with failed := true }.stop
  match failure with
  | .calledReactionFailed _ => (stopped, stage)
  | _ =>
    (stopped, { stage with
      effects := stage.effects.report
        ⟨run.reaction.name, run.trigger.object, node, command.kind, failure⟩ })

/--
Moves the cursor by a flow. Coming back to a node asks its command for a further flow; since every
jump goes forward along the walk, this ends.
-/
def follow (language : Language σ) (run : Run σ) (cursor : Cursor) (flow : Flow) (stage : Stage) :
    Run σ × Stage :=
  match flow with
  | .finish => (run.stop, stage)
  | .stay | .advance 0 =>
    match cursor.phase with
    | .enter => (run, stage)
    | .back => ({ run with cursor := some (.enter cursor.node), state := none }, stage)
  | .advance (count + 1) =>
    match _jump : run.tree.advance? cursor (count + 1) with
    | none => (run.stop, stage)
    | some next =>
      let moved := { run with cursor := some next, state := none }
      match next.phase with
      | .enter => (moved, stage)
      | .back =>
        match run.tree.item? next.node with
        | none => (moved.stop, stage)
        | some command =>
          match language.childrenDone (run.context next.node) command stage with
          | (.ok answer, after) => moved.follow language next answer after
          | (.error failure, after) => moved.fail next.node command failure after
termination_by run.tree.remaining cursor
decreasing_by exact Tree.remaining_advance?_lt _jump

def prepare (language : Language σ) (run : Run σ) (node : Nat) (command : Command) (stage : Stage) :
    Except Failure σ × Stage :=
  match run.state with
  | some state => (.ok state, stage)
  | none => language.begin (run.context node) command stage

/--
One tick: performs the command under the cursor. A command that runs beside its reaction is handed
to a run of its own and skipped; movement routes perform it in place. The root carries no command
and is left at once.
-/
def tick (language : Language σ) (run : Run σ) (stage : Stage) : Run σ × Stage :=
  match run.cursor with
  | none => (run, stage)
  | some cursor =>
    match run.tree.item? cursor.node with
    | none => run.follow language cursor .next stage
    | some command =>
      if language.runsBeside command && !run.isParallel && !run.moving then
        run.follow language cursor (.advance (run.tree.skipOffset cursor.node))
          { stage with
            effects := stage.effects.fork ⟨run.reaction, run.trigger, cursor.node⟩ }
      else
        match run.prepare language cursor.node command stage with
        | (.error failure, begun) => run.fail cursor.node command failure begun
        | (.ok state, begun) =>
          match language.perform (run.context cursor.node) command state begun with
          | (.error failure, performed) => run.fail cursor.node command failure performed
          | (.ok (flow, kept), performed) =>
            { run with state := some kept }.follow language cursor flow performed

def tearDown (run : Run σ) (world : World) : Run σ × World :=
  if run.tornDown then (run, world)
  else if run.holdsPause then
    ({ run with tornDown := true, holdsPause := false },
      match run.trigger.object with
      | some object => world.modifyObject object MapObject.release
      | none => world)
  else ({ run with tornDown := true }, world)

def forceFinish (run : Run σ) (world : World) : Run σ × World :=
  run.stop.tearDown world

def listen (language : Language σ) (run : Run σ) (event : InputEvent) : Run σ × List String :=
  match run.command?, run.state with
  | some command, some state =>
    let heard := language.listen command event state
    ({ run with state := some heard.1 }, heard.2)
  | _, _ => (run, [])

def draw (language : Language σ) (run : Run σ) : List String :=
  match run.command?, run.state with
  | some command, some state => language.draw command state
  | _, _ => []

end Run

end TileScript
