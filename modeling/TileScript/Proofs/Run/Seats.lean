import TileScript.Proofs.Run.Ways
import TileScript.Proofs.Tree.Growth

namespace TileScript

theorem Reaction.begins {reaction : Reaction} (nonempty : reaction.isEmpty = false) :
    reaction.tree.start?.isNone = false := by
  simpa [isEmpty, Tree.isEmpty, Tree.hasChildren, Tree.start?] using nonempty

namespace Run

variable {σ : Type} {language : Language σ} {run : Run σ}

structure Seated (run : Run σ) : Prop where
  entering : ∀ cursor, run.cursor = some cursor → cursor.phase = .enter
  inside : ∀ cursor, run.cursor = some cursor → 0 < cursor.node ∧ cursor.node ≤ run.tree.size
  stopped : run.failed = true → run.cursor = none

namespace Seated

theorem of_ended (ended : run.cursor = none) : Seated run where
  entering := fun _ located => nomatch ended.symm.trans located
  inside := fun _ located => nomatch ended.symm.trans located
  stopped := fun _ => ended

theorem of_enter {node : Nat} (located : run.cursor = some (.enter node))
    (inside : 0 < node ∧ node ≤ run.tree.size) (going : run.failed = false) : Seated run := by
  refine ⟨fun cursor found => ?_, fun cursor found => ?_, fun failed => ?_⟩
  · cases located.symm.trans found
    rfl
  · cases located.symm.trans found
    exact inside
  · rw [going] at failed
    cases failed

theorem not_failed (seated : Seated run) {cursor : Cursor} (located : run.cursor = some cursor) :
    run.failed = false := by
  cases failed : run.failed with
  | false => rfl
  | true => cases (seated.stopped failed).symm.trans located

theorem not_failed_of_live (seated : Seated run) (live : run.isFinished = false) :
    run.failed = false := by
  cases located : run.cursor with
  | none => simp [isFinished, located] at live
  | some cursor => exact seated.not_failed located

theorem start (reaction : Reaction) (trigger : Trigger) (moving : Bool) (depth : Nat)
    (holdsPause : Bool) :
    Seated ({ Run.start reaction trigger with
      moving := moving, depth := depth, holdsPause := holdsPause } : Run σ) := by
  cases first : reaction.tree.firstChild? 0 with
  | none => exact of_ended (by simp [Run.start, Tree.start?, first])
  | some child =>
    have hangs := Tree.parent?_firstChild? first
    have begins : reaction.tree.start? = some (.enter child) := by simp [Tree.start?, first]
    exact of_enter begins ⟨Tree.parent?_lt hangs, Tree.le_size_of_parent? hangs⟩ rfl

theorem fail (run : Run σ) (node : Nat) (command : Command) (failure : Failure) (stage : Stage) :
    Seated (run.fail node command failure stage).1 := by
  cases failure <;> exact of_ended rfl

/-- A flow out of a node leads to another node, or out of the tree. -/
theorem follow {cursor : Cursor} (flow : Flow) (stage : Stage) (going : run.failed = false)
    (inside : 0 < cursor.node ∧ cursor.node ≤ run.tree.size)
    (staying : cursor.phase = .enter → run.cursor = some cursor) :
    Seated (run.follow language cursor flow stage).1 := by
  fun_induction Run.follow language run cursor flow stage with
  | case1 run cursor stage => exact of_ended rfl
  | case2 run cursor stage phase | case4 run cursor stage phase =>
    obtain ⟨node, _⟩ := cursor
    cases phase
    exact of_enter (staying rfl) inside going
  | case3 run cursor stage | case5 run cursor stage => exact of_enter rfl inside going
  | case6 run cursor stage count => exact of_ended rfl
  | case7 run cursor stage count next jump moved phase =>
    obtain ⟨node, _⟩ := next
    cases phase
    exact of_enter rfl (Tree.inside_of_advance? jump) going
  | case8 run cursor stage count next => exact of_ended rfl
  | case9 run cursor stage count next jump moved phase command carried answer after asked ih =>
    refine ih going (Tree.inside_of_advance? jump) fun entering => ?_
    cases phase.symm.trans entering
  | case10 run cursor stage count next jump moved phase command carried failure after asked =>
    exact fail moved next.node command failure after

theorem tick (language : Language σ) (seated : Seated run) (stage : Stage) :
    Seated (run.tick language stage).1 := by
  cases located : run.cursor with
  | none =>
    rw [tick_ended stage located]
    exact seated
  | some cursor =>
    have inside := seated.inside cursor located
    have going := seated.not_failed located
    obtain ⟨command, carried⟩ := Tree.item?_of_inside inside
    cases inPlace : language.runsBeside command && !run.isParallel && !run.moving with
    | true =>
      rw [tick_beside stage located carried inPlace]
      exact follow _ _ going inside fun _ => located
    | false =>
      rcases tick_inPlace stage located carried inPlace with ⟨failure, begun, _, ticked⟩ |
        ⟨_, _, failure, performed, _, _, ticked⟩ | ⟨_, _, flow, kept, performed, _, _, ticked⟩
      · rw [ticked]
        exact fail run cursor.node command failure begun
      · rw [ticked]
        exact fail run cursor.node command failure performed
      · rw [ticked]
        exact follow flow performed going inside fun _ => located

theorem listen (language : Language σ) (seated : Seated run) (event : InputEvent) :
    Seated (run.listen language event).1 := by
  unfold Run.listen
  split
  · exact ⟨seated.entering, seated.inside, seated.stopped⟩
  · exact seated

end Seated

end Run

def Fork.Beside (fork : Fork) : Prop :=
  ∃ command, fork.reaction.tree.item? fork.node = some command ∧ command.runsBeside = true

namespace Run

theorem forks_of_fail (run : Run Activity) (node : Nat) (command : Command) (failure : Failure)
    (stage : Stage) :
    (run.fail node command failure stage).2.effects.forks = stage.effects.forks := by
  rcases stage_of_fail run node command failure stage with ⟨_, _, same⟩ | ⟨_, reported⟩
  · rw [same]
  · rw [reported]
    rfl

/-- The forks of a tick, those of called runs included, are sound. -/
theorem tick_forks (levels : Nat) (run : Run Activity) (stage : Stage) :
    ∃ more, (run.tick (.within .inert levels) stage).2.effects.forks =
      stage.effects.forks ++ more ∧ ∀ fork ∈ more, fork.Beside := by
  have none {after : Stage} (same : after.effects.forks = stage.effects.forks) :
      ∃ more, after.effects.forks = stage.effects.forks ++ more ∧
        ∀ fork ∈ more, Fork.Beside fork :=
    ⟨[], by simp [same], fun _ member => nomatch member⟩
  induction levels using Nat.strongRecOn generalizing run with
  | ind levels ih =>
    have way := tick_way levels run stage
    generalize run.tick (.within .inert levels) stage = ticked at way ⊢
    cases way with
    | ended located => exact none rfl
    | root cursor located bare =>
      rw [(follow_within levels run cursor .next stage).1]
      exact none rfl
    | fork cursor command located carried beside =>
      rw [(follow_within levels run cursor _ _).1]
      refine ⟨_, rfl, List.forall_mem_singleton.mpr ⟨command, carried, ?_⟩⟩
      simp only [Bool.and_eq_true] at beside
      exact beside.1.1
    | refused cursor command failure located carried ready =>
      exact none (forks_of_fail run cursor.node command failure stage)
    | failed cursor command activity failure located carried ready done refused =>
      exact none (forks_of_fail run cursor.node command failure stage)
    | done cursor command activity kept flow after located carried ready performed =>
      rw [(follow_within levels _ cursor flow after).1]
      exact none (Standard.performLocal_deed performed).forks_eq
    | host cursor kind index count located carried =>
      rw [(follow_within levels _ cursor .next stage).1]
      exact none rfl
    | calledFailed below cursor id parameters called level located carried ready failed =>
      exact ih below (by omega) called
    | called below cursor id parameters called level located carried ready sound =>
      rw [(follow_within levels _ cursor _ _).1]
      exact ih below (by omega) called

end Run

end TileScript
