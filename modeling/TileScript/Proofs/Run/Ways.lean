import TileScript.Proofs.Language.Deeds
import TileScript.Proofs.Language.Levels
import TileScript.Proofs.Run.Tick

namespace TileScript.Run

theorem follow_within (levels : Nat) (run : Run Activity) (cursor : Cursor) (flow : Flow)
    (stage : Stage) :
    let followed := run.follow (.within .inert levels) cursor flow stage
    followed.2 = stage ∧ followed.1.failed = run.failed ∧
      (followed.1.state = none ∨ followed.1.state = run.state) := by
  fun_induction follow (Language.within .inert levels) run cursor flow stage with
  | case1 | case3 | case5 | case6 | case7 | case8 => exact ⟨rfl, rfl, .inl rfl⟩
  | case2 | case4 => exact ⟨rfl, rfl, .inr rfl⟩
  | case9 run cursor stage count next jump moved back command carried answer after asked ih =>
    have same : after = stage := by
      rw [Language.childrenDone_within] at asked
      exact (congrArg Prod.snd asked).symm
    subst same
    exact ⟨ih.1, ih.2.1, .inl (ih.2.2.elim id id)⟩
  | case10 run cursor stage count next jump moved back command carried failure after asked =>
    rw [Language.childrenDone_within] at asked
    cases asked

inductive Way (levels : Nat) (run : Run Activity) (stage : Stage) :
    Run Activity × Stage → Prop where
  | ended (stopped : run.cursor = none) : Way levels run stage (run, stage)
  | root (cursor : Cursor) (located : run.cursor = some cursor)
      (bare : run.tree.item? cursor.node = none) :
      Way levels run stage (run.follow (.within .inert levels) cursor .next stage)
  | fork (cursor : Cursor) (command : Command) (located : run.cursor = some cursor)
      (carried : run.tree.item? cursor.node = some command)
      (beside : (command.runsBeside && !run.isParallel && !run.moving) = true) :
      Way levels run stage (run.follow (.within .inert levels) cursor
        (.advance (run.tree.skipOffset cursor.node))
        { stage with effects := stage.effects.fork ⟨run.reaction, run.trigger, cursor.node⟩ })
  | refused (cursor : Cursor) (command : Command) (failure : Failure)
      (located : run.cursor = some cursor)
      (carried : run.tree.item? cursor.node = some command)
      (ready : run.prepare (.within .inert levels) cursor.node command stage =
        (.error failure, stage)) :
      Way levels run stage (run.fail cursor.node command failure stage)
  | failed (cursor : Cursor) (command : Command) (activity : Activity) (failure : Failure)
      (located : run.cursor = some cursor)
      (carried : run.tree.item? cursor.node = some command)
      (ready : run.prepare (.within .inert levels) cursor.node command stage =
        (.ok activity, stage))
      (done : (Language.within .inert levels).perform (run.context cursor.node) command activity
        stage = (.error failure, stage))
      (refused : Standard.performLocal (run.context cursor.node) command activity stage =
        .error failure) :
      Way levels run stage (run.fail cursor.node command failure stage)
  | done (cursor : Cursor) (command : Command) (activity kept : Activity) (flow : Flow)
      (after : Stage) (located : run.cursor = some cursor)
      (carried : run.tree.item? cursor.node = some command)
      (ready : run.prepare (.within .inert levels) cursor.node command stage =
        (.ok activity, stage))
      (done : Standard.performLocal (run.context cursor.node) command activity stage =
        .ok (flow, kept, after)) :
      Way levels run stage
        ({ run with state := some kept }.follow (.within .inert levels) cursor flow after)
  | host (cursor : Cursor) (kind : String) (index count : Nat)
      (located : run.cursor = some cursor)
      (carried : run.tree.item? cursor.node = some (.custom kind index)) :
      Way levels run stage
        ({ run with state := some (Activity.custom count) }.follow (.within .inert levels) cursor
          .next stage)
  | calledFailed (below : Nat) (cursor : Cursor) (id : Nat) (parameters : List Operand)
      (called : Run Activity) (level : levels = below + 1) (located : run.cursor = some cursor)
      (carried : run.tree.item? cursor.node = some (.callCommon id parameters))
      (ready : run.prepare (.within .inert levels) cursor.node (.callCommon id parameters) stage =
        (.ok (.calling called), stage))
      (failed : (called.tick (.within .inert below) stage).1.failed = true) :
      Way levels run stage (run.fail cursor.node (.callCommon id parameters)
        (.calledReactionFailed id) (called.tick (.within .inert below) stage).2)
  | called (below : Nat) (cursor : Cursor) (id : Nat) (parameters : List Operand)
      (called : Run Activity) (level : levels = below + 1) (located : run.cursor = some cursor)
      (carried : run.tree.item? cursor.node = some (.callCommon id parameters))
      (ready : run.prepare (.within .inert levels) cursor.node (.callCommon id parameters) stage =
        (.ok (.calling called), stage))
      (sound : (called.tick (.within .inert below) stage).1.failed = false) :
      Way levels run stage
        ({ run with
            state := some (Activity.calling (called.tick (.within .inert below) stage).1) }.follow
          (.within .inert levels) cursor
          (if (called.tick (.within .inert below) stage).1.isFinished then .next else .stay)
          (called.tick (.within .inert below) stage).2)

theorem stage_of_prepare {levels node : Nat} {run : Run Activity} {command : Command}
    {stage begun : Stage} {outcome : Except Failure Activity}
    (ready : run.prepare (.within .inert levels) node command stage = (outcome, begun)) :
    begun = stage := by
  rw [Language.prepare_within] at ready
  exact (congrArg Prod.snd ready).symm

theorem tick_way (levels : Nat) (run : Run Activity) (stage : Stage) :
    Way levels run stage (run.tick (.within .inert levels) stage) := by
  cases located : run.cursor with
  | none =>
    rw [tick_ended stage located]
    exact .ended located
  | some cursor =>
    cases carried : run.tree.item? cursor.node with
    | none =>
      rw [tick_root stage located carried]
      exact .root cursor located carried
    | some command =>
      cases inPlace : command.runsBeside && !run.isParallel && !run.moving with
      | true =>
        rw [tick_beside stage located carried
          ((Language.runsBeside_within levels command).symm ▸ inPlace)]
        exact .fork cursor command located carried inPlace
      | false =>
        rcases tick_inPlace stage located carried
          ((Language.runsBeside_within levels command).symm ▸ inPlace) with
          ⟨failure, begun, ready, ticked⟩ |
          ⟨activity, begun, failure, performed, ready, done, ticked⟩ |
          ⟨activity, begun, flow, kept, performed, ready, done, ticked⟩
        · cases stage_of_prepare ready
          rw [ticked]
          exact .refused cursor command failure located carried ready
        · cases stage_of_prepare ready
          rw [ticked]
          rcases Language.perform_cases levels (run.context cursor.node) command activity stage with
            ⟨kind, index, count, rfl, rfl⟩ | ⟨below, id, parameters, called, rfl, rfl, rfl⟩ | here
          · cases levels <;> cases done
          · rw [Language.perform_call] at done
            dsimp only at done
            split at done
            · rename_i failed
              cases done
              exact .calledFailed below cursor id parameters called rfl located carried ready failed
            · cases done
          · rw [done] at here
            split at here
            · rename_i refused
              cases here
              exact .failed cursor command activity failure located carried ready done refused
            · cases here
        · cases stage_of_prepare ready
          rw [ticked]
          rcases Language.perform_cases levels (run.context cursor.node) command activity stage with
            ⟨kind, index, count, rfl, rfl⟩ | ⟨below, id, parameters, called, rfl, rfl, rfl⟩ | here
          · cases levels <;> cases done <;> exact .host cursor kind index count located carried
          · rw [Language.perform_call] at done
            dsimp only at done
            split at done
            · cases done
            · rename_i sound
              cases done
              exact .called below cursor id parameters called rfl located carried ready
                (Bool.not_eq_true _ ▸ sound)
          · rw [here] at done
            split at done
            · cases done
            · rename_i performed
              cases done
              exact .done cursor command activity kept flow _ located carried ready performed

inductive Outcome (stage : Stage) : Stage → Prop where
  | deed {command : Command} {after : Stage} (deed : Deed stage command after) :
      Outcome stage after
  | fork (fork : Fork) : Outcome stage { stage with effects := stage.effects.fork fork }
  | report (diagnostic : Diagnostic) :
      Outcome stage { stage with effects := stage.effects.report diagnostic }

theorem stage_of_fail (run : Run Activity) (node : Nat) (command : Command) (failure : Failure)
    (stage : Stage) :
    (∃ id, failure = .calledReactionFailed id ∧ (run.fail node command failure stage).2 = stage) ∨
    (∀ id, failure ≠ .calledReactionFailed id) ∧ (run.fail node command failure stage).2 =
      { stage with
        effects := stage.effects.report
          ⟨run.reaction.name, run.trigger.object, node, command.kind, failure⟩ } := by
  cases failure with
  | calledReactionFailed id => exact .inl ⟨id, rfl, rfl⟩
  | _ => exact .inr ⟨by simp, rfl⟩

theorem outcome_of_fail (run : Run Activity) (node : Nat) (command : Command) (failure : Failure)
    (stage : Stage) : Outcome stage (run.fail node command failure stage).2 := by
  rcases stage_of_fail run node command failure stage with ⟨_, _, same⟩ | ⟨_, reported⟩
  · rw [same]
    exact .deed (.nothing .stopReaction)
  · rw [reported]
    exact .report _

/-- Whatever a run does in a tick, the stage sees one deed, one fork or one report. -/
theorem tick_outcome (levels : Nat) (run : Run Activity) (stage : Stage) :
    Outcome stage (run.tick (.within .inert levels) stage).2 := by
  induction levels using Nat.strongRecOn generalizing run with
  | ind levels ih =>
    have way := tick_way levels run stage
    generalize run.tick (.within .inert levels) stage = ticked at way ⊢
    cases way with
    | ended located => exact .deed (.nothing .stopReaction)
    | root cursor located bare =>
      rw [(follow_within levels run cursor .next stage).1]
      exact .deed (.nothing .stopReaction)
    | fork cursor command located carried beside =>
      rw [(follow_within levels run cursor _ _).1]
      exact .fork _
    | refused cursor command failure located carried ready =>
      exact outcome_of_fail run cursor.node command failure stage
    | failed cursor command activity failure located carried ready done refused =>
      exact outcome_of_fail run cursor.node command failure stage
    | done cursor command activity kept flow after located carried ready performed =>
      rw [(follow_within levels _ cursor flow after).1]
      exact .deed (Standard.performLocal_deed performed)
    | host cursor kind index count located carried =>
      rw [(follow_within levels _ cursor .next stage).1]
      exact .deed (.nothing .stopReaction)
    | calledFailed below cursor id parameters called level located carried ready failed =>
      exact ih below (by omega) called
    | called below cursor id parameters called level located carried ready sound =>
      rw [(follow_within levels _ cursor _ _).1]
      exact ih below (by omega) called

end TileScript.Run
