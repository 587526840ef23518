import TileScript.Language.Standard

namespace TileScript

namespace Standard

variable {context : Context} {world : World}

/-- A call that begins is not too deep, and finds its reaction and its parameters. -/
theorem call_ok {id : Nat} {parameters : List Operand} {called : Run Activity}
    (begun : call context world id parameters = .ok called) :
    context.depth < maxCallDepth ∧ ∃ reaction values, world.common? id = some reaction ∧
      context.resolveAll world parameters = .ok values ∧
      called = { Run.start reaction { context.trigger with parameters := values } with
        moving := context.moving
        depth := context.depth + 1 } := by
  unfold call at begun
  split at begun
  · cases begun
  · rename_i shallow
    split at begun
    · cases begun
    · rename_i reaction found
      split at begun
      · cases begun
      · rename_i values resolved
        cases begun
        exact ⟨by omega, reaction, values, found, resolved, rfl⟩

/-- Only a call begins with a run. -/
theorem begin_calling {command : Command} {called : Run Activity}
    (begun : begin context command world = .ok (.calling called)) :
    ∃ id parameters, command = .callCommon id parameters ∧
      call context world id parameters = .ok called := by
  unfold begin at begun
  split at begun
  case h_5 id parameters =>
    split at begun
    · cases begun
    · rename_i inner calls
      cases begun
      exact ⟨id, parameters, rfl, calls⟩
  -- Waits and walks may fail to begin; everything else begins with a state of its own kind.
  case h_1 | h_4 => split at begun <;> cases begun
  all_goals cases begun

end Standard

namespace Language

variable {extension : Extension} {levels : Nat}

theorem runsBeside_within (levels : Nat) (command : Command) :
    (within .inert levels).runsBeside command = command.runsBeside := by
  cases levels <;> cases command <;> rfl

theorem childrenDone_within (levels : Nat) (context : Context) (command : Command) (stage : Stage) :
    (within .inert levels).childrenDone context command stage =
      (.ok (Standard.childrenDone context command), stage) := by
  cases levels <;> cases command <;> rfl

def beginning (context : Context) (command : Command) (world : World) : Except Failure Activity :=
  match command with
  | .custom _ _ => .ok (.custom 0)
  | _ => Standard.begin context command world

theorem menu_of_beginning {context : Context} {command : Command} {world : World} {menu : Menu}
    (begun : beginning context command world = .ok (.menu menu)) : menu = Menu.fresh := by
  cases command with
  | displayChoice choices cancel =>
    cases begun
    rfl
  | wait ticks =>
    simp only [beginning, Standard.begin] at begun
    split at begun <;> cases begun
  | moveObject object steps waitEnd framesPerStep =>
    simp only [beginning, Standard.begin] at begun
    split at begun <;> cases begun
  | callCommon id parameters =>
    simp only [beginning, Standard.begin] at begun
    split at begun <;> cases begun
  | _ => cases begun

theorem beginning_calling {context : Context} {command : Command} {world : World}
    {called : Run Activity} (begun : beginning context command world = .ok (.calling called)) :
    ∃ id parameters, command = .callCommon id parameters ∧
      Standard.call context world id parameters = .ok called := by
  unfold beginning at begun
  split at begun
  · cases begun
  · exact Standard.begin_calling begun

theorem begin_within (levels : Nat) (context : Context) (command : Command) (stage : Stage) :
    (within .inert levels).begin context command stage =
      (beginning context command stage.world, stage) := by
  cases levels <;> cases command <;> rfl

theorem prepare_within (levels : Nat) (run : Run Activity) (node : Nat) (command : Command)
    (stage : Stage) :
    run.prepare (within .inert levels) node command stage =
      ((run.state.map .ok).getD (beginning (run.context node) command stage.world), stage) := by
  unfold Run.prepare
  cases run.state with
  | none => exact begin_within levels _ command stage
  | some state => rfl

theorem perform_call (levels : Nat) (context : Context) (id : Nat) (parameters : List Operand)
    (called : Run Activity) (stage : Stage) :
    (within extension (levels + 1)).perform context (.callCommon id parameters) (.calling called)
        stage =
      let ticked := called.tick (within extension levels) stage
      if ticked.1.failed then (.error (.calledReactionFailed id), ticked.2)
      else (.ok (if ticked.1.isFinished then .next else .stay, .calling ticked.1), ticked.2) :=
  rfl

/-- A call in progress fails only because the called run did. -/
theorem failure_of_call {context : Context} {id : Nat} {parameters : List Operand}
    {called : Run Activity} {failure : Failure} {stage performed : Stage}
    (refused : (within extension (levels + 1)).perform context (.callCommon id parameters)
      (.calling called) stage = (.error failure, performed)) :
    failure = .calledReactionFailed id := by
  rw [perform_call] at refused
  dsimp only at refused
  split at refused <;> cases refused
  rfl

/-- Everything but a call in progress and a custom command is performed where it stands. -/
theorem perform_cases (levels : Nat) (context : Context) (command : Command) (activity : Activity)
    (stage : Stage) :
    (∃ kind index count, command = .custom kind index ∧ activity = .custom count) ∨
    (∃ below id parameters called, levels = below + 1 ∧ command = .callCommon id parameters ∧
      activity = .calling called) ∨
    (within extension levels).perform context command activity stage =
      match Standard.performLocal context command activity stage with
      | .error failure => (.error failure, stage)
      | .ok (flow, kept, after) => (.ok (flow, kept), after) := by
  cases command with
  | custom kind index =>
    cases activity with
    | custom count => exact .inl ⟨kind, index, count, rfl, rfl⟩
    | _ => cases levels <;> exact .inr (.inr rfl)
  | callCommon id parameters =>
    cases levels with
    | zero => cases activity <;> exact .inr (.inr rfl)
    | succ below =>
      cases activity with
      | calling called => exact .inr (.inl ⟨below, id, parameters, called, rfl, rfl, rfl⟩)
      | _ => exact .inr (.inr rfl)
  | _ => cases levels <;> exact .inr (.inr rfl)

end Language

end TileScript
