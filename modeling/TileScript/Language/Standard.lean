import TileScript.Language.Message
import TileScript.Language.Movement
import TileScript.Language.Plain

namespace TileScript

def maxCallDepth : Nat := 8

inductive Activity where
  | plain
  | waiting (remaining : Nat)
  | message (message : Message)
  | menu (menu : Menu)
  | walking (walk : Walk)
  | calling (inner : Run Activity)
  | custom (count : Nat)

/-- The behaviour of custom commands. Each of them counts from what `begin` gives. -/
structure Extension where
  runsBeside : Nat → Bool
  begin : Nat → Context → Stage → Except Failure Nat × Stage
  perform : Nat → Context → Nat → Stage → Except Failure (Flow × Nat) × Stage
  childrenDone : Nat → Context → Stage → Except Failure Flow × Stage
  listen : Nat → InputEvent → Nat → Nat × List String
  draw : Nat → Nat → List String

def Extension.inert : Extension where
  runsBeside := fun _ => false
  begin := fun _ _ stage => (.ok 0, stage)
  perform := fun _ _ count stage => (.ok (.next, count), stage)
  childrenDone := fun _ _ stage => (.ok .next, stage)
  listen := fun _ _ count => (count, [])
  draw := fun _ _ => []

namespace Standard

def call (context : Context) (world : World) (id : Nat) (parameters : List Operand) :
    Except Failure (Run Activity) :=
  if maxCallDepth < context.depth + 1 then .error (.callTooDeep id maxCallDepth)
  else
    match world.common? id with
    | none => .error (.missingCommon id)
    | some reaction =>
      match context.resolveAll world parameters with
      | .error failure => .error failure
      | .ok values =>
        .ok { Run.start reaction { context.trigger with parameters := values } with
          moving := context.moving
          depth := context.depth + 1 }

def begin (context : Context) (command : Command) (world : World) : Except Failure Activity :=
  match command with
  | .wait ticks =>
    match context.resolveNumber world ticks with
    | .error failure => .error failure
    | .ok number => .ok (.waiting (ticksOf number))
  | .showText speaker text => .ok (.message (Message.compose world speaker text))
  | .displayChoice _ _ => .ok (.menu Menu.fresh)
  | .moveObject object _ _ _ =>
    match context.referred world command.kind object with
    | .error failure => .error failure
    | .ok (id, _) => .ok (.walking (Walk.fresh id))
  | .callCommon id parameters =>
    match call context world id parameters with
    | .error failure => .error failure
    | .ok inner => .ok (.calling inner)
  | _ => .ok .plain

def performPlain (context : Context) (command : Command) (stage : Stage) : Option Plain.Outcome :=
  match command with
  | .choice => some (Plain.choice context stage)
  | .ifThen condition hasElse => some (Plain.ifThen context condition hasElse stage)
  | .elseBranch => some (Plain.elseBranch context stage)
  | .whileLoop condition => some (Plain.whileLoop context condition stage)
  | .breakLoop => some (Plain.breakLoop context stage)
  | .stopReaction => some (.ok (.finish, stage))
  | .setVariable id operation value => some (Plain.setVariable context id operation value stage)
  | .sendEvent receiver system event parameters =>
    some (Plain.sendEvent context command.kind receiver system event parameters stage)
  | .teleport map position orientation => some (Plain.teleport map position orientation stage)
  | .changeState object state operation =>
    some (Plain.changeState context command.kind object state operation stage)
  | .removeObject object => some (Plain.removeObject context command.kind object stage)
  | _ => none

def performLocal (context : Context) (command : Command) (activity : Activity) (stage : Stage) :
    Except Failure (Flow × Activity × Stage) :=
  match command, activity with
  | .wait _, .waiting remaining =>
    if remaining ≤ 1 then .ok (.next, .waiting remaining, stage)
    else .ok (.stay, .waiting (remaining - 1), stage)
  | .showText _ _, .message message =>
    .ok (if message.confirmed then .next else .stay, .message message, stage)
  | .displayChoice _ _, .menu menu => .ok (menu.flow context, .menu menu, stage)
  | .moveObject _ steps _ framesPerStep, .walking walk =>
    match walk.tick context.moving steps framesPerStep stage.world with
    | .error failure => .error failure
    | .ok (flow, walked, world) => .ok (flow, .walking walked, { stage with world := world })
  | _, .plain =>
    match performPlain context command stage with
    | none => .error (.stateMismatch command.kind)
    | some (.error failure) => .error failure
    | some (.ok (flow, after)) => .ok (flow, .plain, after)
  | _, _ => .error (.stateMismatch command.kind)

/-- The answer of a command when its last child is done: a loop begins again, a branch leaves its
menu, everything else goes on. -/
def childrenDone (context : Context) : Command → Flow
  | .whileLoop _ => .stay
  | .choice => .advance (context.tree.offsetToParentReturn context.node)
  | _ => .next

end Standard

/-- One level of the standard language; `inner` runs the reactions that its calls begin. -/
def Language.level (extension : Extension) (inner : Option (Language Activity)) :
    Language Activity where
  runsBeside := fun command =>
    match command with
    | .custom _ index => extension.runsBeside index
    | _ => command.runsBeside
  begin := fun context command stage =>
    match command with
    | .custom _ index =>
      match extension.begin index context stage with
      | (.ok count, after) => (.ok (.custom count), after)
      | (.error failure, after) => (.error failure, after)
    | _ => (Standard.begin context command stage.world, stage)
  perform := fun context command activity stage =>
    match command, activity, inner with
    | .custom _ index, .custom count, _ =>
      match extension.perform index context count stage with
      | (.ok (flow, counted), after) => (.ok (flow, .custom counted), after)
      | (.error failure, after) => (.error failure, after)
    | .callCommon id _, .calling called, some language =>
      let ticked := called.tick language stage
      if ticked.1.failed then (.error (.calledReactionFailed id), ticked.2)
      else (.ok (if ticked.1.isFinished then .next else .stay, .calling ticked.1), ticked.2)
    | _, _, _ =>
      match Standard.performLocal context command activity stage with
      | .error failure => (.error failure, stage)
      | .ok (flow, kept, after) => (.ok (flow, kept), after)
  childrenDone := fun context command stage =>
    match command with
    | .custom _ index => extension.childrenDone index context stage
    | _ => (.ok (Standard.childrenDone context command), stage)
  listen := fun command event activity =>
    match command, activity, inner with
    | .showText _ _, .message message, _ => (.message (message.listen event), [])
    | .displayChoice choices cancelIndex, .menu menu, _ =>
      (.menu (menu.listen choices.length cancelIndex event), [])
    | .callCommon _ _, .calling called, some language =>
      let heard := called.listen language event
      (.calling heard.1, heard.2)
    | .custom _ index, .custom count, _ =>
      let heard := extension.listen index event count
      (.custom heard.1, heard.2)
    | _, _, _ => (activity, [])
  draw := fun command activity =>
    match command, activity, inner with
    | .showText _ _, .message message, _ => [message.line]
    | .displayChoice choices _, .menu menu, _ => menu.lines choices
    | .callCommon _ _, .calling called, some language => called.draw language
    | .custom _ index, .custom count, _ => extension.draw index count
    | _, _, _ => []

def Language.within (extension : Extension) : Nat → Language Activity
  | 0 => Language.level extension none
  | levels + 1 => Language.level extension (some (Language.within extension levels))

def Language.atDepth (extension : Extension) (depth : Nat) : Language Activity :=
  Language.within extension (maxCallDepth - depth)

def Language.standard : Language Activity := Language.atDepth .inert 0

end TileScript
