import TileScript.Proofs.Run.Nested

namespace TileScript.Run

variable {run : Run Activity} {levels : Nat} {stage : Stage}

def CarriesOut (levels : Nat) (run : Run Activity) (stage : Stage) (command : Command) : Prop :=
  ∃ entry ∈ descent levels run stage, ∃ node ∈ performed entry.2,
    entry.1.tree.item? node = some command

def teleports (levels : Nat) (run : Run Activity) (stage : Stage) : Bool :=
  (descent levels run stage).any (fun entry => (performed entry.2).any (fun node =>
    match entry.1.tree.item? node with
    | some (.teleport _ _ _) => true
    | _ => false))

theorem teleports_of_carriesOut {map : Nat} {position : Position} {orientation : Option Orientation}
    (performs : CarriesOut levels run stage (.teleport map position orientation)) :
    run.teleports levels stage = true := by
  obtain ⟨entry, member, node, performs, carried⟩ := performs
  refine List.any_eq_true.mpr ⟨entry, member, List.any_eq_true.mpr ⟨node, performs, ?_⟩⟩
  rw [carried]

theorem mem_tickLogged {cursor : Cursor} {command : Command} {activity : Activity}
    (located : run.cursor = some cursor) (carried : run.tree.item? cursor.node = some command)
    (inPlace : command.runsBeside = false)
    (ready : run.prepare (.within .inert levels) cursor.node command stage =
      (.ok activity, stage)) :
    ∃ answer, .perform cursor.node activity answer ∈
      (run.tickLogged (.within .inert levels) stage).1 := by
  have turn : Turn (.within .inert levels) run cursor command stage _ :=
    tickLogged_turn stage located carried (by rw [Language.runsBeside_within, inPlace]; rfl)
  generalize run.tickLogged (.within .inert levels) stage = ticked at turn ⊢
  cases turn with
  | refused failure after idle begins =>
    unfold prepare at ready
    rw [idle] at ready
    cases begins.symm.trans ready
  | failed calls state begun failure after held done =>
    cases held.prepare_eq.symm.trans ready
    exact ⟨_, List.mem_append_right _ (List.mem_singleton_self _)⟩
  | done calls state begun flow kept after held done =>
    cases held.prepare_eq.symm.trans ready
    exact ⟨_, List.mem_append_right _ List.mem_cons_self⟩

theorem CarriesOut.here {cursor : Cursor} {command : Command} {activity : Activity}
    (located : run.cursor = some cursor) (carried : run.tree.item? cursor.node = some command)
    (inPlace : command.runsBeside = false)
    (ready : run.prepare (.within .inert levels) cursor.node command stage =
      (.ok activity, stage)) : CarriesOut levels run stage command := by
  obtain ⟨answer, logged⟩ := mem_tickLogged located carried inPlace ready
  have performs : cursor.node ∈ performed (run.tickLogged (.within .inert levels) stage).1 :=
    List.mem_filterMap.mpr ⟨_, logged, rfl⟩
  cases levels with
  | zero => exact ⟨_, List.mem_singleton_self _, _, performs, carried⟩
  | succ levels => exact ⟨_, List.mem_cons_self, _, performs, carried⟩

theorem CarriesOut.inside {below : Nat} {cursor : Cursor} {id : Nat} {parameters : List Operand}
    {called : Run Activity} {command : Command} (located : run.cursor = some cursor)
    (carried : run.tree.item? cursor.node = some (.callCommon id parameters))
    (ready : run.prepare (.within .inert (below + 1)) cursor.node (.callCommon id parameters)
      stage = (.ok (.calling called), stage))
    (performs : CarriesOut below called stage command) :
    CarriesOut (below + 1) run stage command := by
  obtain ⟨answer, logged⟩ := mem_tickLogged located carried rfl ready
  obtain ⟨entry, member, node, performs, command⟩ := performs
  refine ⟨entry, List.mem_cons_of_mem _ (List.mem_flatMap.mpr ⟨called, ?_, member⟩), node, performs,
    command⟩
  exact List.mem_filterMap.mpr ⟨_, logged, by simp only [Call.handedTo?, carried]⟩

inductive Result (performs : Command → Prop) (stage : Stage) : Stage → Prop where
  | nothing : Result performs stage stage
  | deed {after : Stage} (command : Command)
      (performed : command.runsBeside = false → performs command)
      (deed : Deed stage command after) : Result performs stage after
  | fork (fork : Fork) : Result performs stage { stage with effects := stage.effects.fork fork }
  | report (diagnostic : Diagnostic) :
      Result performs stage { stage with effects := stage.effects.report diagnostic }

theorem Result.mono {performs wider : Command → Prop} {after : Stage}
    (result : Result performs stage after)
    (embed : ∀ command, performs command → wider command) : Result wider stage after := by
  cases result with
  | nothing => exact .nothing
  | deed command performed deed => exact .deed command (fun still => embed _ (performed still)) deed
  | fork fork => exact .fork fork
  | report diagnostic => exact .report diagnostic

theorem Result.of_fail {performs : Command → Prop} (run : Run Activity) (node : Nat)
    (command : Command) (failure : Failure) (stage : Stage) :
    Result performs stage (run.fail node command failure stage).2 := by
  rcases stage_of_fail run node command failure stage with ⟨_, _, same⟩ | ⟨_, reported⟩
  · rw [same]
    exact .nothing
  · rw [reported]
    exact .report _

theorem tick_result (levels : Nat) (run : Run Activity) (stage : Stage) :
    Result (CarriesOut levels run stage) stage (run.tick (.within .inert levels) stage).2 := by
  -- The tick that a call hands on is the tick of a run that the descent goes through.
  induction levels using Nat.strongRecOn generalizing run with
  | ind levels ih =>
    have way := tick_way levels run stage
    generalize run.tick (.within .inert levels) stage = ticked at way ⊢
    cases way with
    | ended located => exact .nothing
    | root cursor located bare =>
      rw [(follow_within levels run cursor .next stage).1]
      exact .nothing
    | fork cursor command located carried beside =>
      rw [(follow_within levels run cursor _ _).1]
      exact .fork _
    | refused cursor command failure located carried ready => exact .of_fail run _ _ _ _
    | failed cursor command activity failure located carried ready done refused =>
      exact .of_fail run _ _ _ _
    | done cursor command activity kept flow after located carried ready performed =>
      rw [(follow_within levels _ cursor flow after).1]
      exact .deed command (fun inPlace => .here located carried inPlace ready)
        (Standard.performLocal_deed performed)
    | host cursor kind index count located carried =>
      rw [(follow_within levels _ cursor .next stage).1]
      exact .nothing
    | calledFailed below cursor id parameters called level located carried ready failed =>
      subst level
      exact (ih below (by omega) called).mono fun command => .inside located carried ready
    | called below cursor id parameters called level located carried ready sound =>
      subst level
      rw [(follow_within _ _ cursor _ _).1]
      exact (ih below (by omega) called).mono fun command => .inside located carried ready

end TileScript.Run
