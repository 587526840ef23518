import TileScript.Proofs.Language.Failures
import TileScript.Proofs.Run.Ways
import TileScript.Proofs.Tree.Growth

namespace TileScript

theorem Standard.performLocal_kept {context : Context} {command : Command}
    {activity kept : Activity} {flow : Flow} {stage after : Stage} (called : Run Activity)
    (done : performLocal context command activity stage = .ok (flow, kept, after)) :
    kept ≠ .calling called := by
  rintro rfl
  unfold performLocal at done
  split at done
  · split at done <;> cases done
  · cases done
  · cases done
  · split at done <;> cases done
  · split at done <;> cases done
  · cases done

namespace Run

inductive Intact : Run Activity → Prop where
  | intro (run : Run Activity) (stopped : run.failed = true → run.cursor = none)
      (sound : ∀ called, run.state = some (.calling called) → called.failed = false)
      (inner : ∀ called, run.state = some (.calling called) → Intact called) : Intact run

namespace Intact

variable {run called : Run Activity} {levels : Nat}

theorem stopped (intact : Intact run) (failed : run.failed = true) : run.cursor = none := by
  cases intact with
  | intro _ stopped => exact stopped failed

theorem sound (intact : Intact run) (calling : run.state = some (.calling called)) :
    called.failed = false := by
  cases intact with
  | intro _ _ sound => exact sound called calling

theorem inner (intact : Intact run) (calling : run.state = some (.calling called)) :
    Intact called := by
  cases intact with
  | intro _ _ _ inner => exact inner called calling

theorem not_failed (intact : Intact run) {cursor : Cursor} (located : run.cursor = some cursor) :
    run.failed = false := by
  cases failed : run.failed with
  | false => rfl
  | true =>
    rw [intact.stopped failed] at located
    cases located

theorem of_idle (stopped : run.failed = true → run.cursor = none) (idle : run.state = none) :
    Intact run := by
  refine .intro run stopped ?_ ?_ <;>
  · intro called calling
    rw [idle] at calling
    cases calling

theorem fail (run : Run Activity) (node : Nat) (command : Command) (failure : Failure)
    (stage : Stage) : Intact (run.fail node command failure stage).1 := by
  cases failure <;> exact of_idle (fun _ => rfl) rfl

theorem follow (cursor : Cursor) (flow : Flow) (stage : Stage) (going : run.failed = false)
    (sound : ∀ called, run.state = some (.calling called) → called.failed = false)
    (inner : ∀ called, run.state = some (.calling called) → Intact called) :
    Intact (run.follow (.within .inert levels) cursor flow stage).1 := by
  obtain ⟨_, failed, state⟩ := follow_within levels run cursor flow stage
  have stopped : (run.follow (.within .inert levels) cursor flow stage).1.failed = true →
      (run.follow (.within .inert levels) cursor flow stage).1.cursor = none := by
    intro stopped
    rw [failed, going] at stopped
    cases stopped
  rcases state with state | state
  · exact of_idle stopped state
  · refine .intro _ stopped ?_ ?_ <;> rw [state]
    · exact sound
    · exact inner

theorem of_prepare (intact : Intact run) {node : Nat} {command : Command} {stage : Stage}
    (ready : run.prepare (.within .inert levels) node command stage =
      (.ok (.calling called), stage)) :
    called.failed = false ∧ Intact called := by
  rw [Language.prepare_within] at ready
  cases begun : run.state with
  | some activity =>
    rw [begun] at ready
    cases ready
    exact ⟨intact.sound begun, intact.inner begun⟩
  | none =>
    rw [begun] at ready
    have fresh := congrArg Prod.fst ready
    simp only [Option.map_none, Option.getD_none] at fresh
    obtain ⟨id, parameters, rfl, calls⟩ := Language.beginning_calling fresh
    obtain ⟨_, reaction, values, _, _, rfl⟩ := Standard.call_ok calls
    exact ⟨rfl, of_idle (fun failed => nomatch failed) rfl⟩

theorem tick (intact : Intact run) (stage : Stage) :
    Intact (run.tick (.within .inert levels) stage).1 := by
  -- A called run is ticked one level below, so the levels bound how deep the induction goes.
  induction levels using Nat.strongRecOn generalizing run with
  | ind levels ih =>
    have way := tick_way levels run stage
    generalize run.tick (.within .inert levels) stage = ticked at way ⊢
    cases way with
    | ended located => exact intact
    | root cursor located bare =>
      exact follow cursor _ _ (intact.not_failed located) (fun _ => intact.sound)
        (fun _ => intact.inner)
    | fork cursor command located carried beside =>
      exact follow cursor _ _ (intact.not_failed located) (fun _ => intact.sound)
        (fun _ => intact.inner)
    | refused cursor command failure located carried ready =>
      exact fail run cursor.node command failure stage
    | failed cursor command activity failure located carried ready done refused =>
      exact fail run cursor.node command failure stage
    | done cursor command activity kept flow after located carried ready performed =>
      refine follow cursor flow after (intact.not_failed located) ?_ ?_ <;>
      · rintro called ⟨⟩
        exact absurd rfl (Standard.performLocal_kept called performed)
    | host cursor kind index count located carried =>
      refine follow cursor .next stage (intact.not_failed located) ?_ ?_ <;>
      · rintro called ⟨⟩
    | calledFailed below cursor id parameters called level located carried ready failed =>
      exact fail run cursor.node _ _ _
    | called below cursor id parameters called level located carried ready sound =>
      have kept := ih below (by omega) (intact.of_prepare ready).2
      refine follow cursor _ _ (intact.not_failed located) ?_ ?_
      · rintro called ⟨⟩
        exact sound
      · rintro called ⟨⟩
        exact kept

theorem listen_calling {command : Command} {event : InputEvent} {activity : Activity}
    (heard : ((Language.within .inert levels).listen command event activity).1 = .calling called) :
    activity = .calling called ∨
      ∃ below inner, levels = below + 1 ∧ activity = .calling inner ∧
        called = (inner.listen (.within .inert below) event).1 := by
  cases levels with
  | zero =>
    cases command <;> cases activity <;> cases heard
    all_goals exact .inl rfl
  | succ below =>
    cases command <;> cases activity <;> cases heard
    case callCommon.calling.refl id parameters inner => exact .inr ⟨below, inner, rfl, rfl, rfl⟩
    all_goals exact .inl rfl

theorem listen_failed (run : Run Activity) (event : InputEvent) :
    (run.listen (.within .inert levels) event).1.failed = run.failed := by
  unfold Run.listen
  split <;> rfl

theorem listen (intact : Intact run) (event : InputEvent) :
    Intact (run.listen (.within .inert levels) event).1 := by
  induction levels using Nat.strongRecOn generalizing run with
  | ind levels ih =>
    unfold Run.listen
    split
    · rename_i command activity _ begun
      have calling (called : Run Activity)
          (heard : some ((Language.within .inert levels).listen command event activity).1 =
            some (Activity.calling called)) : called.failed = false ∧ Intact called := by
        rcases listen_calling (Option.some.inj heard) with rfl | ⟨below, inner, level, rfl, rfl⟩
        · exact ⟨intact.sound begun, intact.inner begun⟩
        · rw [listen_failed]
          exact ⟨intact.sound begun, ih below (by omega) (intact.inner begun)⟩
      exact .intro _ intact.stopped (fun called heard => (calling called heard).1)
        (fun called heard => (calling called heard).2)
    · exact intact

end Intact

/-- The states a run can get into, from where it starts to any moment between two ticks. -/
inductive Lived (levels : Nat) : Run Activity → Prop where
  | fresh (run : Run Activity) (idle : run.state = none) (going : run.failed = false) :
      Lived levels run
  | tick {run : Run Activity} (lived : Lived levels run) (stage : Stage) :
      Lived levels (run.tick (.within .inert levels) stage).1
  | listen {run : Run Activity} (lived : Lived levels run) (event : InputEvent) :
      Lived levels (run.listen (.within .inert levels) event).1

theorem Lived.intact {levels : Nat} {run : Run Activity} (lived : Lived levels run) :
    Intact run := by
  induction lived with
  | fresh run idle going =>
    refine .of_idle (fun failed => ?_) idle
    rw [going] at failed
    cases failed
  | tick lived stage ih => exact ih.tick stage
  | listen lived event ih => exact ih.listen event

structure Fault where
  run : Run Activity
  node : Nat
  command : Command
  failure : Failure

def Fault.diagnostic (fault : Fault) : Diagnostic :=
  ⟨fault.run.reaction.name, fault.run.trigger.object, fault.node, fault.command.kind, fault.failure⟩

/-- The fault of a tick: the command under the cursor cannot begin, or fails itself, or is a call
whose run has the fault. -/
inductive Faulty (stage : Stage) : Nat → Run Activity → Fault → Prop where
  | begin (levels : Nat) (run : Run Activity) (cursor : Cursor) (command : Command)
      (failure : Failure) (located : run.cursor = some cursor)
      (carried : run.tree.item? cursor.node = some command)
      (refused : run.prepare (.within .inert levels) cursor.node command stage =
        (.error failure, stage)) :
      Faulty stage levels run ⟨run, cursor.node, command, failure⟩
  | perform (levels : Nat) (run : Run Activity) (cursor : Cursor) (command : Command)
      (activity : Activity) (failure : Failure) (located : run.cursor = some cursor)
      (carried : run.tree.item? cursor.node = some command)
      (ready : run.prepare (.within .inert levels) cursor.node command stage =
        (.ok activity, stage))
      (refused : (Language.within .inert levels).perform (run.context cursor.node) command activity
        stage = (.error failure, stage))
      (direct : ∀ id, failure ≠ .calledReactionFailed id) :
      Faulty stage levels run ⟨run, cursor.node, command, failure⟩
  | call (levels : Nat) (run called : Run Activity) (cursor : Cursor) (id : Nat)
      (parameters : List Operand) (fault : Fault) (located : run.cursor = some cursor)
      (carried : run.tree.item? cursor.node = some (.callCommon id parameters))
      (ready : run.prepare (.within .inert (levels + 1)) cursor.node (.callCommon id parameters)
        stage = (.ok (.calling called), stage))
      (inner : Faulty stage levels called fault) :
      Faulty stage (levels + 1) run fault

theorem Faulty.unique {stage : Stage} {levels : Nat} {run : Run Activity} {first second : Fault}
    (one : Faulty stage levels run first) (other : Faulty stage levels run second) :
    second = first := by
  induction one with
  | begin levels run cursor command failure located carried refused =>
    cases other with
    | begin _ _ cursor' command' failure' located' carried' refused' =>
      cases located.symm.trans located'
      cases carried.symm.trans carried'
      cases refused.symm.trans refused'
      rfl
    | perform _ _ cursor' command' activity failure' located' carried' ready =>
      cases located.symm.trans located'
      cases carried.symm.trans carried'
      cases refused.symm.trans ready
    | call _ _ called cursor' id parameters _ located' carried' ready =>
      cases located.symm.trans located'
      cases carried.symm.trans carried'
      cases refused.symm.trans ready
  | perform levels run cursor command activity failure located carried ready refused direct =>
    cases other with
    | begin _ _ cursor' command' failure' located' carried' refused' =>
      cases located.symm.trans located'
      cases carried.symm.trans carried'
      cases ready.symm.trans refused'
    | perform _ _ cursor' command' activity' failure' located' carried' ready' refused' =>
      cases located.symm.trans located'
      cases carried.symm.trans carried'
      cases ready.symm.trans ready'
      cases refused.symm.trans refused'
      rfl
    | call below _ called cursor' id parameters _ located' carried' ready' =>
      cases located.symm.trans located'
      cases carried.symm.trans carried'
      cases ready.symm.trans ready'
      exact absurd (Language.failure_of_call refused) (direct id)
  | call levels run called cursor id parameters fault located carried ready inner ih =>
    cases other with
    | begin _ _ cursor' command' failure' located' carried' refused' =>
      cases located.symm.trans located'
      cases carried.symm.trans carried'
      cases ready.symm.trans refused'
    | perform _ _ cursor' command' activity failure' located' carried' ready' refused direct =>
      cases located.symm.trans located'
      cases carried.symm.trans carried'
      cases ready.symm.trans ready'
      exact absurd (Language.failure_of_call refused) (direct id)
    | call _ _ called' cursor' id' parameters' _ located' carried' ready' inner' =>
      cases located.symm.trans located'
      cases carried.symm.trans carried'
      cases ready.symm.trans ready'
      exact ih inner'

theorem fail_direct (run : Run Activity) (node : Nat) (command : Command) {failure : Failure}
    (stage : Stage) (direct : ∀ id, failure ≠ .calledReactionFailed id) :
    (run.fail node command failure stage).2 =
      { stage with
        effects := stage.effects.report (Fault.diagnostic ⟨run, node, command, failure⟩) } := by
  rcases stage_of_fail run node command failure stage with ⟨id, echo, _⟩ | ⟨_, reported⟩
  · exact absurd echo (direct id)
  · exact reported

theorem tick_faulty {levels : Nat} {run : Run Activity} (intact : Intact run) (stage : Stage) :
    let ticked := run.tick (.within .inert levels) stage
    (run.failed = false ∧ ticked.1.failed = true ∧ ∃ fault, Faulty stage levels run fault ∧
      (∀ id, fault.failure ≠ .calledReactionFailed id) ∧
      ticked.2 = { stage with effects := stage.effects.report fault.diagnostic }) ∨
    (ticked.1.failed = run.failed ∧
      ticked.2.effects.diagnostics = stage.effects.diagnostics) := by
  induction levels using Nat.strongRecOn generalizing run with
  | ind levels ih =>
    have way := tick_way levels run stage
    generalize run.tick (.within .inert levels) stage = ticked at way ⊢
    cases way with
    | ended located => exact .inr ⟨rfl, rfl⟩
    | root cursor located bare =>
      obtain ⟨same, failed, _⟩ := follow_within levels run cursor .next stage
      exact .inr ⟨failed, by rw [same]⟩
    | fork cursor command located carried beside =>
      obtain ⟨same, failed, _⟩ := follow_within levels run cursor
        (.advance (run.tree.skipOffset cursor.node))
        { stage with effects := stage.effects.fork ⟨run.reaction, run.trigger, cursor.node⟩ }
      exact .inr ⟨failed, by rw [same]; rfl⟩
    | refused cursor command failure located carried ready =>
      have direct : ∀ id, failure ≠ .calledReactionFailed id := by
        have begins := Language.prepare_within levels run cursor.node command stage
        cases begun : run.state with
        | some activity =>
          rw [ready, begun] at begins
          cases begins
        | none =>
          rw [ready, begun] at begins
          exact Language.beginning_firstHand (congrArg Prod.fst begins).symm
      exact .inl ⟨intact.not_failed located, failed_of_fail run cursor.node command failure stage,
        _, .begin levels run cursor command failure located carried ready, direct,
        fail_direct run cursor.node command stage direct⟩
    | failed cursor command activity failure located carried ready done refused =>
      have direct : ∀ id, failure ≠ .calledReactionFailed id :=
        Standard.performLocal_firstHand _ refused
      exact .inl ⟨intact.not_failed located, failed_of_fail run cursor.node command failure stage,
        _, .perform levels run cursor command activity failure located carried ready done direct,
        direct, fail_direct run cursor.node command stage direct⟩
    | done cursor command activity kept flow after located carried ready performed =>
      obtain ⟨same, failed, _⟩ :=
        follow_within levels { run with state := some kept } cursor flow after
      exact .inr ⟨failed, by rw [same]; exact (Standard.performLocal_deed performed).diagnostics_eq⟩
    | host cursor kind index count located carried =>
      obtain ⟨same, failed, _⟩ :=
        follow_within levels { run with state := some (Activity.custom count) } cursor .next stage
      exact .inr ⟨failed, by rw [same]⟩
    | calledFailed below cursor id parameters called level located carried ready failed =>
      subst level
      obtain ⟨sound, inner⟩ := intact.of_prepare ready
      -- The called run was sound before the tick, so the report is of this tick and not older.
      rcases ih below (by omega) inner with ⟨_, _, fault, faulty, direct, reported⟩ | ⟨same, _⟩
      · exact .inl ⟨intact.not_failed located, rfl, fault,
          .call below run called cursor id parameters fault located carried ready faulty, direct,
          reported⟩
      · rw [failed, sound] at same
        cases same
    | called below cursor id parameters called level located carried ready going =>
      subst level
      obtain ⟨sound, inner⟩ := intact.of_prepare ready
      obtain ⟨same, failed, _⟩ := follow_within (below + 1)
        { run with state := some (Activity.calling (called.tick (.within .inert below) stage).1) }
        cursor (if (called.tick (.within .inert below) stage).1.isFinished then .next else .stay)
        (called.tick (.within .inert below) stage).2
      rcases ih below (by omega) inner with ⟨_, stopped, _⟩ | ⟨_, silent⟩
      · rw [going] at stopped
        cases stopped
      · exact .inr ⟨failed, by rw [same]; exact silent⟩

/-- A tick in which a run becomes failed changes nothing but one added report, of the innermost
fault; any other tick reports nothing. -/
theorem failing_tick_reports_once {levels : Nat} {run : Run Activity} (lived : Lived levels run)
    (stage : Stage) :
    let ticked := run.tick (.within .inert levels) stage
    (run.failed = false ∧ ticked.1.failed = true → ∃ fault, Faulty stage levels run fault ∧
      (∀ other, Faulty stage levels run other → other = fault) ∧
      (∀ id, fault.failure ≠ .calledReactionFailed id) ∧ ticked.2.world = stage.world ∧
      ticked.2.effects = stage.effects.report fault.diagnostic) ∧
    (¬ (run.failed = false ∧ ticked.1.failed = true) →
      ticked.2.effects.diagnostics = stage.effects.diagnostics) := by
  rcases tick_faulty lived.intact stage with
    ⟨going, failed, fault, faulty, direct, reported⟩ | ⟨same, silent⟩
  · refine ⟨fun _ => ⟨fault, faulty, fun _ => faulty.unique, direct, ?_, ?_⟩,
      fun sound => absurd ⟨going, failed⟩ sound⟩
    · rw [reported]
    · rw [reported]
  · refine ⟨fun becomes => ?_, fun _ => silent⟩
    rw [same, becomes.1] at becomes
    cases becomes.2

def errand : Reaction :=
  ⟨.common 7, "errand",
    (Tree.single (.setVariable 1 .set (.constant (.bool true)))).add 0
      (.removeObject (.object 99)) (Nat.zero_le _), false⟩

def errandWorld : World := { content := some ⟨.ofList [(7, errand)], ∅, {}⟩ }

def sentOut : Run Activity :=
  ((Run.start ⟨.loose 0, "sender", .single (.callCommon 7 []), false⟩ {}).tick
    .standard ⟨errandWorld, {}⟩).1

theorem errand_reported_once :
    let ticked := sentOut.tick .standard ⟨errandWorld, {}⟩
    sentOut.failed = false ∧ ticked.1.failed = true ∧
      ticked.2.effects.diagnostics.map (fun diagnostic => (diagnostic.reaction, diagnostic.node)) =
        [("errand", 2)] ∧
      ∃ fault, Faulty ⟨errandWorld, {}⟩ maxCallDepth sentOut fault ∧
        ticked.2.effects.diagnostics = [fault.diagnostic] := by
  have lived : Lived maxCallDepth sentOut := .tick (.fresh _ rfl rfl) ⟨errandWorld, {}⟩
  have going : sentOut.failed = false := by decide +kernel
  have failed : (sentOut.tick (.within .inert maxCallDepth) ⟨errandWorld, {}⟩).1.failed = true := by
    decide +kernel
  obtain ⟨fault, faulty, _, _, _, reported⟩ :=
    (failing_tick_reports_once lived ⟨errandWorld, {}⟩).1 ⟨going, failed⟩
  refine ⟨going, failed, by decide +kernel, fault, faulty, ?_⟩
  exact congrArg Effects.diagnostics reported

end Run

end TileScript
