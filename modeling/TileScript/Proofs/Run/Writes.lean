import TileScript.Proofs.Run.States
import TileScript.Proofs.Run.Ways

namespace TileScript

def IdMap.assignAll (vars : IdMap Value) (writes : List (Nat × Value)) : IdMap Value :=
  writes.foldl (fun vars write => vars.insert write.1 write.2) vars

theorem IdMap.assignAll_append (vars : IdMap Value) (earlier later : List (Nat × Value)) :
    vars.assignAll (earlier ++ later) = (vars.assignAll earlier).assignAll later :=
  List.foldl_append

def Plain.assignment? (context : Context) (id : Nat) (operation : VariableOperation)
    (value : Operand) (world : World) : Option Value :=
  match context.resolve world value with
  | .error _ => none
  | .ok operand => (updated operation (world.valueOf id) operand).toOption

theorem World.vars_removeObject (world : World) (id : Nat) :
    (world.removeObject id).vars = world.vars := by
  unfold removeObject
  split <;> rfl

theorem Run.vars_tearDown {σ : Type} (run : Run σ) (world : World) :
    (run.tearDown world).2.vars = world.vars := by
  unfold tearDown
  split
  · rfl
  · split
    · dsimp only
      split <;> rfl
    · rfl

section Commands

variable {context : Context} {command : Command} {stage after : Stage} {flow : Flow}

theorem Plain.setVariable_writes {id : Nat} {operation : VariableOperation} {value : Operand}
    (done : setVariable context id operation value stage = .ok (flow, after)) :
    ∃ result, assignment? context id operation value stage.world = some result ∧
      after.world = stage.world.setVariable id result := by
  unfold setVariable at done
  split at done
  · cases done
  · rename_i operand resolved
    split at done
    · cases done
    · rename_i result computed
      cases done
      exact ⟨result, by simp only [assignment?, resolved, computed, Except.toOption], rfl⟩

theorem Plain.setVariable_refused {id : Nat} {operation : VariableOperation} {value : Operand}
    {failure : Failure} (failed : setVariable context id operation value stage = .error failure) :
    assignment? context id operation value stage.world = none := by
  cases resolved : context.resolve stage.world value with
  | error refused => simp only [assignment?, resolved]
  | ok operand =>
    simp only [setVariable, resolved] at failed
    cases computed : updated operation (stage.world.valueOf id) operand with
    | error refused => simp only [assignment?, resolved, computed, Except.toOption]
    | ok result =>
      rw [computed] at failed
      cases failed

/-- Only one kind of command writes variables. -/
theorem Deed.vars_eq (deed : Deed stage command after)
    (other : ∀ id operation value, command ≠ .setVariable id operation value) :
    after.world.vars = stage.world.vars := by
  cases deed with
  | assign id operation operand value => exact absurd rfl (other id operation operand)
  | remove => exact World.vars_removeObject _ _
  | _ => rfl

end Commands

namespace Run

def writesBy (context : Context) (world : World) (inner : Run Activity → List (Nat × Value)) :
    Command → Except Failure Activity → List (Nat × Value)
  | .setVariable id operation value, .ok .plain =>
    ((Plain.assignment? context id operation value world).map (id, ·)).toList
  | .callCommon _ _, .ok (.calling called) => inner called
  | _, _ => []

/-- What a tick of a run writes, given what the run of a call does: what the command under the cursor
assigns. -/
def writesOver (inner : Run Activity → List (Nat × Value)) (run : Run Activity) (world : World) :
    List (Nat × Value) :=
  match run.cursor with
  | none => []
  | some cursor =>
    match run.tree.item? cursor.node with
    | none => []
    | some command =>
      writesBy (run.context cursor.node) world inner command
        ((run.state.map .ok).getD (Language.beginning (run.context cursor.node) command world))

def writes : Nat → Run Activity → World → List (Nat × Value)
  | 0, run, world => run.writesOver (fun _ => []) world
  | below + 1, run, world => run.writesOver (fun called => writes below called world) world

def writesWithin (world : World) : Nat → Run Activity → List (Nat × Value)
  | 0, _ => []
  | below + 1, called => writes below called world

section Writes

variable {levels : Nat} {run : Run Activity} {cursor : Cursor} {command : Command} {stage : Stage}
  {activity : Activity} {failure : Failure}

theorem writes_eq (levels : Nat) (run : Run Activity) (world : World) :
    writes levels run world = run.writesOver (writesWithin world levels) world := by
  cases levels <;> rfl

theorem writes_ended (world : World) (stopped : run.cursor = none) :
    writes levels run world = [] := by
  rw [writes_eq, writesOver, stopped]

theorem writes_bare (world : World) (located : run.cursor = some cursor)
    (bare : run.tree.item? cursor.node = none) : writes levels run world = [] := by
  simp only [writes_eq, writesOver, located, bare]

theorem writes_of_prepare {outcome : Except Failure Activity} (located : run.cursor = some cursor)
    (carried : run.tree.item? cursor.node = some command)
    (ready : run.prepare (.within .inert levels) cursor.node command stage = (outcome, stage)) :
    writes levels run stage.world =
      writesBy (run.context cursor.node) stage.world (writesWithin stage.world levels) command
        outcome := by
  rw [Language.prepare_within] at ready
  have begun : (run.state.map .ok).getD
      (Language.beginning (run.context cursor.node) command stage.world) = outcome :=
    congrArg Prod.fst ready
  simp only [writes_eq, writesOver, located, carried, begun]

theorem writes_of_lasting (world : World) (located : run.cursor = some cursor)
    (carried : run.tree.item? cursor.node = some command)
    (noWrite : ∀ id operation value, command ≠ .setVariable id operation value)
    (noCall : ∀ id parameters, command ≠ .callCommon id parameters) :
    writes levels run world = [] := by
  simp only [writes_eq, writesOver, located, carried]
  cases command with
  | setVariable id operation value => exact absurd rfl (noWrite id operation value)
  | callCommon id parameters => exact absurd rfl (noCall id parameters)
  | _ => rfl

theorem vars_fail (run : Run Activity) (node : Nat) (command : Command) (failure : Failure)
    (stage : Stage) : (run.fail node command failure stage).2.world.vars = stage.world.vars := by
  cases failure <;> rfl

/-- A call in progress is left to the level below. -/
theorem performLocal_call {context : Context} {id : Nat} {parameters : List Operand} :
    Standard.performLocal context (.callCommon id parameters) activity stage =
      .error (.stateMismatch (Command.callCommon id parameters).kind) := by
  cases activity <;> rfl

theorem vars_performed {context : Context} {kept : Activity} {flow : Flow} {after : Stage}
    (levels : Nat)
    (done : Standard.performLocal context command activity stage = .ok (flow, kept, after)) :
    after.world.vars = stage.world.vars.assignAll (writesBy context stage.world
      (writesWithin stage.world levels) command (.ok activity)) := by
  cases command with
  | setVariable id operation value =>
    cases activity with
    | plain =>
      rw [Standard.performLocal_plain] at done
      split at done
      · cases done
      · cases done
      · rename_i performed
        cases done
        obtain ⟨result, assigned, same⟩ := Plain.setVariable_writes (Option.some.inj performed)
        rw [same, writesBy, assigned]
        rfl
    | _ => cases done
  | callCommon id parameters =>
    rw [performLocal_call] at done
    cases done
  | _ => exact (Standard.performLocal_deed done).vars_eq (by simp)

/-- A command that fails where it stands writes nothing. -/
theorem writesBy_refused {context : Context}
    (done : (Language.within .inert levels).perform context command activity stage =
      (.error failure, stage))
    (refused : Standard.performLocal context command activity stage = .error failure) :
    writesBy context stage.world (writesWithin stage.world levels) command (.ok activity) = [] := by
  cases command with
  | setVariable id operation value =>
    cases activity with
    | plain =>
      rw [Standard.performLocal_plain] at refused
      split at refused
      · rename_i unknown
        cases unknown
      · rename_i failed
        rw [writesBy, Plain.setVariable_refused (Option.some.inj failed)]
        rfl
      · cases refused
    | _ => rfl
  | callCommon id parameters =>
    cases activity with
    | calling called =>
      cases levels with
      | zero => rfl
      | succ below =>
        cases refused
        cases Language.failure_of_call done
    | _ => rfl
  | _ => rfl

/-- A tick changes the variables by what it writes, and by nothing else. -/
theorem vars_tick (levels : Nat) (run : Run Activity) (stage : Stage) :
    (run.tick (.within .inert levels) stage).2.world.vars =
      stage.world.vars.assignAll (writes levels run stage.world) := by
  induction levels using Nat.strongRecOn generalizing run with
  | ind levels ih =>
    have way := tick_way levels run stage
    generalize run.tick (.within .inert levels) stage = ticked at way ⊢
    cases way with
    | ended located =>
      rw [writes_ended _ located]
      rfl
    | root cursor located bare =>
      rw [writes_bare _ located bare, (follow_within levels run cursor .next stage).1]
      rfl
    | fork cursor command located carried beside =>
      rw [(follow_within levels run cursor _ _).1]
      cases command with
      | moveObject =>
        rw [writes_of_lasting _ located carried (by simp) (by simp)]
        rfl
      | _ => cases beside
    | refused cursor command failure located carried ready =>
      rw [writes_of_prepare located carried ready, vars_fail]
      cases command <;> rfl
    | failed cursor command activity failure located carried ready done refused =>
      rw [vars_fail, writes_of_prepare located carried ready, writesBy_refused done refused]
      rfl
    | done cursor command activity kept flow after located carried ready performed =>
      rw [writes_of_prepare located carried ready, (follow_within levels _ cursor flow after).1]
      exact vars_performed levels performed
    | host cursor kind index count located carried =>
      rw [writes_of_lasting _ located carried (by simp) (by simp),
        (follow_within levels _ cursor _ _).1]
      rfl
    | calledFailed below cursor id parameters called level located carried ready failed =>
      subst level
      rw [writes_of_prepare located carried ready]
      exact ih below (by omega) called
    | called below cursor id parameters called level located carried ready sound =>
      subst level
      rw [(follow_within _ _ cursor _ _).1, writes_of_prepare located carried ready]
      exact ih below (by omega) called

end Writes

end Run

end TileScript
