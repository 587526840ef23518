import TileScript.Proofs.Run.Failing
import TileScript.Proofs.Run.Rounds

namespace TileScript.Run

inductive Layered : Run Activity → Prop where
  | intro (run : Run Activity) (shallow : run.depth ≤ maxCallDepth)
      (deeper : ∀ called, run.state = some (.calling called) → called.depth = run.depth + 1)
      (inner : ∀ called, run.state = some (.calling called) → Layered called) : Layered run

namespace Layered

variable {run called : Run Activity} {levels : Nat}

theorem shallow (layered : Layered run) : run.depth ≤ maxCallDepth := by
  cases layered with
  | intro _ shallow => exact shallow

theorem deeper (layered : Layered run) (calling : run.state = some (.calling called)) :
    called.depth = run.depth + 1 := by
  cases layered with
  | intro _ _ deeper => exact deeper called calling

theorem inner (layered : Layered run) (calling : run.state = some (.calling called)) :
    Layered called := by
  cases layered with
  | intro _ _ _ inner => exact inner called calling

theorem of_idle (shallow : run.depth ≤ maxCallDepth) (idle : run.state = none) : Layered run := by
  refine .intro run shallow ?_ ?_ <;>
  · intro called calling
    cases idle.symm.trans calling

theorem fail (shallow : run.depth ≤ maxCallDepth) (node : Nat) (command : Command)
    (failure : Failure) (stage : Stage) : Layered (run.fail node command failure stage).1 := by
  cases failure <;> exact of_idle shallow rfl

theorem follow (layered : Layered run) (language : Language Activity) (cursor : Cursor)
    (flow : Flow) (stage : Stage) : Layered (run.follow language cursor flow stage).1 := by
  rcases run.follow_state language cursor flow stage with same | idle
  · rw [same]
    exact layered
  · refine .of_idle ?_ idle
    obtain ⟨place, state, failed, followed⟩ := run.follow_continues language cursor flow stage
    rw [followed]
    exact layered.shallow

theorem resume (layered : Layered run) {kept : Activity}
    (inner : ∀ called, kept = .calling called → called.depth = run.depth + 1 ∧ Layered called) :
    Layered { run with state := some kept } := by
  refine .intro _ layered.shallow ?_ ?_ <;>
  · rintro called ⟨⟩
    first | exact (inner called rfl).1 | exact (inner called rfl).2

/-- A call that is ready is above the limit, and the run it has called is one level below it. -/
theorem of_prepare (layered : Layered run) {node : Nat} {command : Command} {stage begun : Stage}
    (ready : run.prepare (.within .inert levels) node command stage =
      (.ok (.calling called), begun)) :
    called.depth = run.depth + 1 ∧ Layered called := by
  rw [Language.prepare_within] at ready
  cases held : run.state with
  | some activity =>
    rw [held] at ready
    cases ready
    exact ⟨layered.deeper held, layered.inner held⟩
  | none =>
    rw [held] at ready
    have fresh := congrArg Prod.fst ready
    simp only [Option.map_none, Option.getD_none] at fresh
    obtain ⟨id, parameters, rfl, calls⟩ := Language.beginning_calling fresh
    obtain ⟨shallow, reaction, values, _, _, rfl⟩ := Standard.call_ok calls
    exact ⟨rfl, of_idle shallow rfl⟩

theorem above_limit (layered : Layered run) {node : Nat} {command : Command} {stage begun : Stage}
    (ready : run.prepare (.within .inert levels) node command stage =
      (.ok (.calling called), begun)) : run.depth < maxCallDepth := by
  obtain ⟨deeper, inner⟩ := layered.of_prepare ready
  have shallow := inner.shallow
  omega

theorem depth_of_tick (language : Language Activity) (run : Run Activity) (stage : Stage) :
    (run.tick language stage).1.depth = run.depth := by
  obtain ⟨_, _, _, same⟩ := tick_continues language run stage
  rw [same]

theorem depth_of_listen (language : Language Activity) (run : Run Activity) (event : InputEvent) :
    (run.listen language event).1.depth = run.depth := by
  obtain ⟨_, _, _, same⟩ := listen_continues language run event
  rw [same]

theorem tick (layered : Layered run) (stage : Stage) :
    Layered (run.tick (.within .inert levels) stage).1 := by
  induction levels using Nat.strongRecOn generalizing run with
  | ind levels ih =>
    have way := tick_way levels run stage
    generalize run.tick (.within .inert levels) stage = ticked at way ⊢
    cases way with
    | ended located => exact layered
    | root cursor located bare => exact layered.follow _ _ _ _
    | fork cursor command located carried beside => exact layered.follow _ _ _ _
    | refused cursor command failure located carried ready => exact fail layered.shallow _ _ _ _
    | failed cursor command activity failure located carried ready done refused =>
      exact fail layered.shallow _ _ _ _
    | done cursor command activity kept flow after located carried ready performed =>
      refine (layered.resume (fun called calling => ?_)).follow _ _ _ _
      exact absurd calling (Standard.performLocal_kept called performed)
    | host cursor kind index count located carried =>
      refine (layered.resume ?_).follow _ _ _ _
      rintro called ⟨⟩
    | calledFailed below cursor id parameters called level located carried ready failed =>
      exact fail layered.shallow _ _ _ _
    | called below cursor id parameters called level located carried ready sound =>
      obtain ⟨deeper, inner⟩ := layered.of_prepare ready
      refine (layered.resume (fun after calling => ?_)).follow _ _ _ _
      cases calling
      exact ⟨(depth_of_tick _ called stage).trans deeper, ih below (by omega) inner⟩

theorem listen (layered : Layered run) (event : InputEvent) :
    Layered (run.listen (.within .inert levels) event).1 := by
  induction levels using Nat.strongRecOn generalizing run with
  | ind levels ih =>
    unfold Run.listen
    split
    · rename_i command activity named begun
      refine layered.resume (fun called calling => ?_)
      rcases Intact.listen_calling calling with rfl | ⟨below, inner, level, rfl, rfl⟩
      · exact ⟨layered.deeper begun, layered.inner begun⟩
      · exact ⟨(depth_of_listen _ inner event).trans (layered.deeper begun),
          ih below (by omega) (layered.inner begun)⟩
    · exact layered

end Layered

theorem Lived.layered {levels : Nat} {run : Run Activity} (lived : Lived levels run)
    (shallow : run.depth ≤ maxCallDepth) : Layered run := by
  induction lived with
  | fresh run idle going => exact .of_idle shallow idle
  | @tick before lived stage ih =>
    rw [Layered.depth_of_tick] at shallow
    exact (ih shallow).tick stage
  | @listen before lived event ih =>
    rw [Layered.depth_of_listen] at shallow
    exact (ih shallow).listen event

end TileScript.Run

namespace TileScript

def Call.handedTo? (tree : Tree Command) : Call Activity → Option (Run Activity)
  | perform node (.calling called) _ =>
    match tree.item? node with
    | some (.callCommon _ _) => some called
    | _ => none
  | _ => none

namespace Run

variable {run called : Run Activity} {levels : Nat} {stage : Stage}

/-- The runs that a tick goes through from the outside in, each with the calls of its own hooks. -/
def descent : Nat → Run Activity → Stage → List (Run Activity × List (Call Activity))
  | 0, run, stage => [(run, (run.tickLogged (.within .inert 0) stage).1)]
  | levels + 1, run, stage =>
    let own := (run.tickLogged (.within .inert (levels + 1)) stage).1
    (run, own) ::
      (own.filterMap (Call.handedTo? run.tree)).flatMap (fun called => descent levels called stage)

theorem handedTo_eq {call : Call Activity} (hands : call.handedTo? run.tree = some called) :
    ∃ node answer id parameters, call = .perform node (.calling called) answer ∧
      run.tree.item? node = some (.callCommon id parameters) := by
  unfold Call.handedTo? at hands
  split at hands
  · split at hands
    · rename_i id parameters carried
      cases hands
      exact ⟨_, _, id, parameters, rfl, carried⟩
    · cases hands
  · cases hands

theorem length_handedTo_le (tree : Tree Command) (calls : List (Call Activity)) :
    (calls.filterMap (Call.handedTo? tree)).length ≤ (performed calls).length := by
  rw [performed, List.length_filterMap_eq_countP, List.length_filterMap_eq_countP]
  apply List.countP_mono_left
  intro call _ hands
  unfold Call.handedTo? at hands
  split at hands
  · rfl
  · cases hands

theorem handedTo_cases (levels : Nat) (run : Run Activity) (stage : Stage) :
    let handed := (run.tickLogged (.within .inert levels) stage).1.filterMap
      (Call.handedTo? run.tree)
    handed = [] ∨ ∃ called, handed = [called] ∧ ∃ node id parameters,
      run.tree.item? node = some (.callCommon id parameters) ∧
      run.prepare (.within .inert levels) node (.callCommon id parameters) stage =
        (.ok (.calling called), stage) := by
  have single := (tickLogged_brief (.within .inert levels) run stage).performs
  have few := length_handedTo_le run.tree (run.tickLogged (.within .inert levels) stage).1
  dsimp only
  rcases handed : (run.tickLogged (.within .inert levels) stage).1.filterMap
    (Call.handedTo? run.tree) with _ | ⟨called, more⟩
  · exact .inl rfl
  · rw [handed, List.length_cons] at few
    cases List.eq_nil_of_length_eq_zero (by omega : more.length = 0)
    have among : called ∈ (run.tickLogged (.within .inert levels) stage).1.filterMap
        (Call.handedTo? run.tree) := by rw [handed]; exact List.mem_singleton_self _
    obtain ⟨call, member, hands⟩ := List.mem_filterMap.mp among
    obtain ⟨node, answer, id, parameters, rfl, carried⟩ := handedTo_eq hands
    obtain ⟨_, command, begun, _, _, carried', _, ready, _⟩ := perform_of_tickLogged member
    cases carried.symm.trans carried'
    cases stage_of_prepare ready
    exact .inr ⟨called, rfl, node, id, parameters, carried, ready⟩

theorem descent_depths (layered : Layered run) (levels : Nat) (stage : Stage) :
    let descent := descent levels run stage
    descent.map (fun entry => entry.1.depth) = List.range' run.depth descent.length ∧
      run.depth + descent.length ≤ maxCallDepth + 1 := by
  have shallow := layered.shallow
  induction levels generalizing run with
  | zero => exact ⟨rfl, Nat.succ_le_succ shallow⟩
  | succ levels ih =>
    rcases handedTo_cases (levels + 1) run stage with none | ⟨called, one, _, _, _, _, ready⟩
    · simp only [descent, none]
      exact ⟨rfl, Nat.succ_le_succ shallow⟩
    · obtain ⟨deeper, inner⟩ := layered.of_prepare ready
      obtain ⟨counted, bounded⟩ := ih inner inner.shallow
      simp only [descent, one, List.flatMap_cons, List.flatMap_nil, List.append_nil, List.map_cons,
        List.length_cons, List.range'_succ]
      rw [deeper] at counted bounded
      exact ⟨congrArg _ counted, by omega⟩

theorem descent_shallow (layered : Layered run) {entry : Run Activity × List (Call Activity)}
    (member : entry ∈ descent levels run stage) : entry.1.depth ≤ maxCallDepth := by
  obtain ⟨counted, bounded⟩ := descent_depths layered levels stage
  have listed := List.mem_map_of_mem (f := fun entry => entry.1.depth) member
  rw [counted] at listed
  have inside := List.mem_range'_1.mp listed
  omega

theorem descent_brief {entry : Run Activity × List (Call Activity)}
    (member : entry ∈ descent levels run stage) : Brief entry.1.tree entry.2 := by
  induction levels generalizing run with
  | zero =>
    cases List.mem_singleton.mp member
    exact tickLogged_brief (.within .inert 0) run stage
  | succ levels ih =>
    rcases List.mem_cons.mp member with rfl | later
    · exact tickLogged_brief (.within .inert (levels + 1)) _ stage
    · obtain ⟨called, _, inside⟩ := List.mem_flatMap.mp later
      exact ih inside

theorem call_at_limit (deep : run.depth = maxCallDepth) {cursor : Cursor} {id : Nat}
    {parameters : List Operand} (located : run.cursor = some cursor)
    (carried : run.tree.item? cursor.node = some (.callCommon id parameters))
    (idle : run.state = none) (levels : Nat) (stage : Stage) :
    run.tick (.within .inert levels) stage =
      run.fail cursor.node (.callCommon id parameters) (.callTooDeep id maxCallDepth) stage := by
  have refused : run.prepare (.within .inert levels) cursor.node (.callCommon id parameters) stage =
      (.error (.callTooDeep id maxCallDepth), stage) := by
    rw [Language.prepare_within, idle]
    simp only [Language.beginning, Standard.begin, Standard.call, context, deep]
    simp
  simp only [tick, located, carried, refused, Language.runsBeside_within, Command.runsBeside,
    Bool.false_and, Bool.false_eq_true, ↓reduceIte]

section Congruence

variable {σ : Type} {first second : Language σ} {run : Run σ}

theorem follow_congr (returns : first.childrenDone = second.childrenDone) (cursor : Cursor)
    (flow : Flow) (stage : Stage) :
    run.follow first cursor flow stage = run.follow second cursor flow stage := by
  fun_induction follow first run cursor flow stage with
  | case1 | case2 _ _ _ phase | case3 _ _ _ phase | case4 _ _ _ phase | case5 _ _ _ phase =>
    simp only [follow, *]
  | case6 run cursor stage count out => rw [follow_out second run stage out]
  | case7 run cursor stage count next jump moved phase =>
    simp only [follow_jump second run stage jump, phase]
    rfl
  | case8 run cursor stage count next jump moved phase bare =>
    simp only [follow_jump second run stage jump, phase, bare]
    rfl
  | case9 run cursor stage count next jump moved phase command carried answer after asked ih =>
    simp only [follow_jump second run stage jump, phase, carried, ← returns, asked]
    exact ih
  | case10 run cursor stage count next jump moved phase command carried failure after asked =>
    simp only [follow_jump second run stage jump, phase, carried, ← returns, asked]
    rfl

theorem tick_congr (stage : Stage) (besides : first.runsBeside = second.runsBeside)
    (begins : first.begin = second.begin) (returns : first.childrenDone = second.childrenDone)
    (performs : ∀ node command state begun,
      run.prepare second node command stage = (.ok state, begun) →
      first.perform (run.context node) command state begun =
        second.perform (run.context node) command state begun) :
    run.tick first stage = run.tick second stage := by
  have prepares (node : Nat) (command : Command) :
      run.prepare first node command stage = run.prepare second node command stage := by
    unfold prepare
    rw [begins]
  cases located : run.cursor with
  | none => rw [tick_ended stage located, tick_ended stage located]
  | some cursor =>
    cases carried : run.tree.item? cursor.node with
    | none =>
      rw [tick_root stage located carried, tick_root stage located carried, follow_congr returns]
    | some command =>
      simp only [tick, located, carried, besides, prepares]
      split
      · exact follow_congr returns _ _ _
      · rcases ready : run.prepare second cursor.node command stage with ⟨failure | state, begun⟩
        · rfl
        · dsimp only
          rw [performs _ _ _ _ ready]
          rcases second.perform (run.context cursor.node) command state begun with
            ⟨failure | ⟨flow, kept⟩, performed⟩
          · rfl
          · exact follow_congr returns _ _ _

end Congruence

/-- Only a call in progress is performed differently on different levels. -/
theorem perform_levels (levels other : Nat) (context : Context) (command : Command)
    (activity : Activity) (stage : Stage) (still : ∀ called, activity ≠ .calling called) :
    (Language.within .inert levels).perform context command activity stage =
      (Language.within .inert other).perform context command activity stage := by
  rcases Language.perform_cases levels context command activity stage with
    ⟨kind, index, count, rfl, rfl⟩ | ⟨_, _, _, called, _, _, calling⟩ | here
  · cases levels <;> cases other <;> rfl
  · exact absurd calling (still called)
  · rcases Language.perform_cases other context command activity stage with
      ⟨kind, index, count, rfl, rfl⟩ | ⟨_, _, _, called, _, _, calling⟩ | there
    · cases levels <;> cases other <;> rfl
    · exact absurd calling (still called)
    · rw [here, there]

theorem tick_levels {levels other : Nat} (stage : Stage)
    (performs : ∀ node command activity begun,
      run.prepare (.within .inert other) node command stage = (.ok activity, begun) →
      (Language.within .inert levels).perform (run.context node) command activity begun =
        (Language.within .inert other).perform (run.context node) command activity begun) :
    run.tick (.within .inert levels) stage = run.tick (.within .inert other) stage := by
  refine tick_congr stage ?_ ?_ ?_ performs
  · funext command
    rw [Language.runsBeside_within, Language.runsBeside_within]
  · funext context command stage
    rw [Language.begin_within, Language.begin_within]
  · funext context command stage
    rw [Language.childrenDone_within, Language.childrenDone_within]

/-- Further levels of the language change nothing once there are as many as the depth leaves. -/
theorem tick_settled (layered : Layered run) (enough : maxCallDepth ≤ run.depth + levels)
    (more : Nat) (stage : Stage) :
    run.tick (.within .inert (levels + more)) stage = run.tick (.within .inert levels) stage := by
  induction levels generalizing run stage with
  | zero =>
    refine tick_levels stage (fun node command activity begun ready => ?_)
    apply perform_levels
    rintro called rfl
    have above := layered.above_limit ready
    omega
  | succ below ih =>
    refine tick_levels stage (fun node command activity begun ready => ?_)
    cases activity with
    | calling called =>
      obtain ⟨deeper, inner⟩ := layered.of_prepare ready
      cases command with
      | callCommon id parameters =>
        rw [Nat.add_right_comm, Language.perform_call, Language.perform_call,
          ih inner (by omega)]
      | _ => rw [Nat.add_right_comm]; rfl
    | _ => exact perform_levels _ _ _ _ _ _ (by rintro called ⟨⟩)

end Run

end TileScript
