import TileScript.Run.Basic

namespace TileScript.Run

variable {σ : Type} {language : Language σ} {run : Run σ} {cursor : Cursor} {command : Command}

theorem tick_ended (stage : Stage) (stopped : run.cursor = none) :
    run.tick language stage = (run, stage) := by
  simp [tick, stopped]

theorem tick_root (stage : Stage) (located : run.cursor = some cursor)
    (bare : run.tree.item? cursor.node = none) :
    run.tick language stage = run.follow language cursor .next stage := by
  simp only [tick, located, bare]

theorem tick_beside (stage : Stage) (located : run.cursor = some cursor)
    (carried : run.tree.item? cursor.node = some command)
    (beside : (language.runsBeside command && !run.isParallel && !run.moving) = true) :
    run.tick language stage =
      run.follow language cursor (.advance (run.tree.skipOffset cursor.node))
        { stage with effects := stage.effects.fork ⟨run.reaction, run.trigger, cursor.node⟩ } := by
  simp only [tick, located, carried, beside, ↓reduceIte]

theorem tick_inPlace (stage : Stage) (located : run.cursor = some cursor)
    (carried : run.tree.item? cursor.node = some command)
    (inPlace : (language.runsBeside command && !run.isParallel && !run.moving) = false) :
    (∃ failure begun, run.prepare language cursor.node command stage = (.error failure, begun) ∧
      run.tick language stage = run.fail cursor.node command failure begun) ∨
    (∃ state begun failure performed,
      run.prepare language cursor.node command stage = (.ok state, begun) ∧
      language.perform (run.context cursor.node) command state begun =
        (.error failure, performed) ∧
      run.tick language stage = run.fail cursor.node command failure performed) ∨
    (∃ state begun flow kept performed,
      run.prepare language cursor.node command stage = (.ok state, begun) ∧
      language.perform (run.context cursor.node) command state begun =
        (.ok (flow, kept), performed) ∧
      run.tick language stage =
        { run with state := some kept }.follow language cursor flow performed) := by
  rcases ready : run.prepare language cursor.node command stage with ⟨failure | state, begun⟩
  · refine .inl ⟨failure, begun, rfl, ?_⟩
    simp only [tick, located, carried, inPlace, ready, Bool.false_eq_true, ↓reduceIte]
  · rcases done : language.perform (run.context cursor.node) command state begun with
      ⟨failure | ⟨flow, kept⟩, performed⟩
    · refine .inr (.inl ⟨state, begun, failure, performed, rfl, done, ?_⟩)
      simp only [tick, located, carried, inPlace, ready, done, Bool.false_eq_true, ↓reduceIte]
    · refine .inr (.inr ⟨state, begun, flow, kept, performed, rfl, done, ?_⟩)
      simp only [tick, located, carried, inPlace, ready, done, Bool.false_eq_true, ↓reduceIte]

theorem tick_performs {stage begun performed : Stage} {state kept : σ} {flow : Flow}
    (located : run.cursor = some cursor) (carried : run.tree.item? cursor.node = some command)
    (inPlace : (language.runsBeside command && !run.isParallel && !run.moving) = false)
    (ready : run.prepare language cursor.node command stage = (.ok state, begun))
    (done : language.perform (run.context cursor.node) command state begun =
      (.ok (flow, kept), performed)) :
    run.tick language stage =
      { run with state := some kept }.follow language cursor flow performed := by
  simp only [tick, located, carried, inPlace, ready, done, Bool.false_eq_true, ↓reduceIte]

theorem follow_out (language : Language σ) (run : Run σ) {cursor : Cursor} {count : Nat}
    (stage : Stage)
    (out : run.tree.advance? cursor (count + 1) = none) :
    run.follow language cursor (.advance (count + 1)) stage = (run.stop, stage) := by
  rw [follow]
  split
  · rfl
  · rename_i jump
    cases out.symm.trans jump

theorem follow_jump (language : Language σ) (run : Run σ) {cursor next : Cursor} {count : Nat}
    (stage : Stage)
    (jump : run.tree.advance? cursor (count + 1) = some next) :
    run.follow language cursor (.advance (count + 1)) stage =
      let moved := { run with cursor := some next, state := none }
      match next.phase with
      | .enter => (moved, stage)
      | .back =>
        match run.tree.item? next.node with
        | none => (moved.stop, stage)
        | some command =>
          match language.childrenDone (run.context next.node) command stage with
          | (.ok answer, after) => moved.follow language next answer after
          | (.error failure, after) => moved.fail next.node command failure after := by
  rw [follow]
  split
  · rename_i out
    cases out.symm.trans jump
  · rename_i jump'
    cases jump.symm.trans jump'
    rfl

def Continues (before after : Run σ) : Prop :=
  ∃ place state failed, after = { before with cursor := place, state := state, failed := failed }

theorem Continues.refl (run : Run σ) : Continues run run :=
  ⟨run.cursor, run.state, run.failed, rfl⟩

theorem Continues.trans {first second third : Run σ} (before : Continues first second)
    (after : Continues second third) : Continues first third := by
  obtain ⟨_, _, _, rfl⟩ := before
  obtain ⟨place, state, failed, rfl⟩ := after
  exact ⟨place, state, failed, rfl⟩

theorem Continues.of_state {run after : Run σ} {state : Option σ}
    (continues : Continues { run with state := state } after) : Continues run after := by
  obtain ⟨place, kept, failed, rfl⟩ := continues
  exact ⟨place, kept, failed, rfl⟩

theorem fail_continues (run : Run σ) (node : Nat) (command : Command) (failure : Failure)
    (stage : Stage) : Continues run (run.fail node command failure stage).1 := by
  refine ⟨none, none, true, ?_⟩
  cases failure <;> rfl

theorem follow_continues (language : Language σ) (run : Run σ) (cursor : Cursor) (flow : Flow)
    (stage : Stage) : Continues run (run.follow language cursor flow stage).1 := by
  fun_induction follow language run cursor flow stage with
  | case1 run cursor stage => exact ⟨none, none, run.failed, rfl⟩
  | case2 run cursor stage | case4 run cursor stage => exact .refl run
  | case3 run cursor stage | case5 run cursor stage => exact ⟨_, none, run.failed, rfl⟩
  | case6 run cursor stage count => exact ⟨none, none, run.failed, rfl⟩
  | case7 run cursor stage count next => exact ⟨some next, none, run.failed, rfl⟩
  | case8 run cursor stage count next => exact ⟨none, none, run.failed, rfl⟩
  | case9 run cursor stage count next jump moved back command carried answer after asked ih =>
    obtain ⟨place, state, failed, followed⟩ := ih
    exact ⟨place, state, failed, followed⟩
  | case10 run cursor stage count next jump moved back command carried failure after asked =>
    obtain ⟨place, state, failed, stopped⟩ := fail_continues moved next.node command failure after
    exact ⟨place, state, failed, stopped⟩

theorem follow_state (language : Language σ) (run : Run σ) (cursor : Cursor)
    (flow : Flow) (stage : Stage) :
    (run.follow language cursor flow stage).1 = run ∨
      (run.follow language cursor flow stage).1.state = none := by
  fun_induction follow language run cursor flow stage with
  | case1 | case3 | case5 | case6 | case7 | case8 => exact .inr rfl
  | case2 | case4 => exact .inl rfl
  | case9 run cursor stage count next jump moved back command carried answer after asked ih =>
    rcases ih with same | idle
    · rw [same]
      exact .inr rfl
    · exact .inr idle
  | case10 run cursor stage count next jump moved back command carried failure after asked =>
    cases failure <;> exact .inr rfl

theorem failed_of_fail (run : Run σ) (node : Nat) (command : Command) (failure : Failure)
    (stage : Stage) : (run.fail node command failure stage).1.failed = true := by
  cases failure <;> rfl

theorem tick_continues (language : Language σ) (run : Run σ) (stage : Stage) :
    Continues run (run.tick language stage).1 := by
  cases located : run.cursor with
  | none =>
    rw [tick_ended stage located]
    exact .refl run
  | some cursor =>
    cases carried : run.tree.item? cursor.node with
    | none =>
      rw [tick_root stage located carried]
      exact follow_continues language run cursor .next stage
    | some command =>
      cases inPlace : language.runsBeside command && !run.isParallel && !run.moving with
      | true =>
        rw [tick_beside stage located carried inPlace]
        exact follow_continues language run cursor _ _
      | false =>
        rcases tick_inPlace stage located carried inPlace with ⟨failure, begun, _, ticked⟩ |
          ⟨_, _, failure, performed, _, _, ticked⟩ |
          ⟨_, _, flow, kept, performed, _, _, ticked⟩
        · rw [ticked]
          exact fail_continues run cursor.node command failure begun
        · rw [ticked]
          exact fail_continues run cursor.node command failure performed
        · rw [ticked]
          exact (follow_continues language _ cursor flow performed).of_state

theorem listen_continues (language : Language σ) (run : Run σ) (event : InputEvent) :
    Continues run (run.listen language event).1 := by
  unfold listen
  split
  · exact ⟨run.cursor, _, run.failed, rfl⟩
  · exact .refl run

end TileScript.Run
