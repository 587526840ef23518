import TileScript.Language.Probe
import TileScript.Proofs.Run.Failing
import TileScript.Proofs.Run.Lifecycle

namespace TileScript

variable {σ : Type}

structure Language.Keeps (language : Language σ) (context : Context) (command : Command)
    (fits : σ → Prop) : Prop where
  begin : ∀ stage state, (language.begin context command stage).1 = .ok state → fits state
  perform : ∀ stage state flow kept, fits state →
    (language.perform context command state stage).1 = .ok (flow, kept) → fits kept
  listen : ∀ event state, fits state → fits (language.listen command event state).1

/-- A state that stems from a command is as all states of the command are. -/
theorem Stems.fits {language : Language σ} {context : Nat → Context} {node : Nat}
    {log : List (Call σ)} {state : σ} (stems : Stems node log state) {command : Command}
    (carried : (context node).tree.item? node = some command)
    (answers : ∀ call ∈ log, call.Of language context) {fits : σ → Prop}
    (keeps : language.Keeps (context node) command fits) : fits state := by
  obtain ⟨before, first, since, rfl, kept⟩ := stems
  rw [List.forall_mem_append, List.forall_mem_cons] at answers
  obtain ⟨_, ⟨_, stage, found, began⟩, answers⟩ := answers
  cases carried.symm.trans found
  induction kept with
  | nothing => exact keeps.begin stage first began
  | performed earlier flow kept rests ih =>
    rw [List.forall_mem_append, List.forall_mem_singleton] at answers
    obtain ⟨answers, _, stage, found, performed⟩ := answers
    cases carried.symm.trans found
    exact keeps.perform stage _ flow kept (ih answers) performed
  | heard earlier event answer ih =>
    rw [List.forall_mem_append, List.forall_mem_singleton] at answers
    obtain ⟨answers, _, found, rfl⟩ := answers
    cases carried.symm.trans found
    exact keeps.listen event _ (ih answers)
  | drawn earlier lines ih =>
    rw [List.forall_mem_append] at answers
    exact ih answers.1

/-- Whatever is handed over is as all states of the command are. -/
theorem Traced.fits {language : Language σ} {context : Nat → Context} {node : Nat}
    {log : List (Call σ)} {call : Call σ} {state : σ} (traced : Traced log) (member : call ∈ log)
    (handed : call.given? = some (node, state)) {command : Command}
    (carried : (context node).tree.item? node = some command)
    (answers : ∀ call ∈ log, call.Of language context) {fits : σ → Prop}
    (keeps : language.Keeps (context node) command fits) : fits state := by
  obtain ⟨earlier, later, split⟩ := List.append_of_mem member
  refine (traced earlier call later split node state handed).fits carried ?_ keeps
  intro past before
  exact answers past (split ▸ List.mem_append_left _ before)

def Stage.Matched (stage : Stage) : Prop :=
  ∀ diagnostic ∈ stage.effects.diagnostics, ∀ kind, diagnostic.failure ≠ .stateMismatch kind

structure Accepted {α : Type} (stage : Stage) (outcome : Except Failure α × Stage) : Prop where
  agrees : ∀ kind, outcome.1 ≠ .error (.stateMismatch kind)
  matched : stage.Matched → outcome.2.Matched

theorem Accepted.map {α β : Type} {stage : Stage} {outcome : Except Failure α × Stage}
    (accepted : Accepted stage outcome) (change : α → β) :
    Accepted stage (outcome.1.map change, outcome.2) := by
  refine ⟨fun kind refused => ?_, accepted.matched⟩
  obtain ⟨failure | value, after⟩ := outcome
  · cases refused
    exact accepted.agrees kind rfl
  · cases refused

theorem Accepted.of_still {α : Type} {stage : Stage} {outcome : Except Failure α}
    (agrees : ∀ kind, outcome ≠ .error (.stateMismatch kind)) : Accepted stage (outcome, stage) :=
  ⟨agrees, id⟩

structure Extension.Accepting (extension : Extension) : Prop where
  begin : ∀ index context stage, Accepted stage (extension.begin index context stage)
  perform : ∀ index context count stage, Accepted stage (extension.perform index context count stage)
  childrenDone : ∀ index context stage, Accepted stage (extension.childrenDone index context stage)

inductive Activity.Suits (called : Run Activity → Prop) : Command → Activity → Prop
  | waiting (ticks : Operand) (remaining : Nat) : Suits called (.wait ticks) (.waiting remaining)
  | message (speaker : Option String) (text : String) (message : Message) :
      Suits called (.showText speaker text) (.message message)
  | menu (choices : List String) (cancel : Option Nat) (menu : Menu) :
      Suits called (.displayChoice choices cancel) (.menu menu)
  | walking (object : ObjectRef) (steps : List Orientation) (waitEnd : Bool) (framesPerStep : Nat)
      (walk : Walk) : Suits called (.moveObject object steps waitEnd framesPerStep) (.walking walk)
  | calling (id : Nat) (parameters : List Operand) (inner : Run Activity) (reached : called inner) :
      Suits called (.callCommon id parameters) (.calling inner)
  | custom (kind : String) (index count : Nat) : Suits called (.custom kind index) (.custom count)
  | plain (command : Command)
      (stateless : ∀ context stage, Standard.performPlain context command stage ≠ none) :
      Suits called command .plain

namespace Standard

variable {context : Context} {command : Command} {activity kept : Activity} {stage after : Stage}
  {flow : Flow} {called : Run Activity → Prop}

theorem performLocal_plain (context : Context) (command : Command) (stage : Stage) :
    performLocal context command .plain stage =
      match performPlain context command stage with
      | none => .error (.stateMismatch command.kind)
      | some (.error failure) => .error failure
      | some (.ok (flow, after)) => .ok (flow, .plain, after) := by
  cases command <;> rfl

theorem begin_suits {world : World} (begun : begin context command world = .ok activity)
    (ours : ∀ kind index, command ≠ .custom kind index)
    (calls : ∀ id parameters inner, call context world id parameters = .ok inner → called inner) :
    activity.Suits called command := by
  cases command with
  | custom kind index => exact absurd rfl (ours kind index)
  | wait ticks =>
    simp only [begin] at begun
    split at begun <;> cases begun
    exact .waiting _ _
  | moveObject object steps waitEnd framesPerStep =>
    simp only [begin] at begun
    split at begun <;> cases begun
    exact .walking _ _ _ _ _
  | callCommon id parameters =>
    simp only [begin] at begun
    split at begun
    · cases begun
    · rename_i inner begins
      cases begun
      exact .calling id parameters inner (calls id parameters inner begins)
  | showText speaker text =>
    cases begun
    exact .message _ _ _
  | displayChoice choices cancel =>
    cases begun
    exact .menu _ _ _
  | _ =>
    cases begun
    refine .plain _ ?_
    rintro _ _ ⟨⟩

theorem performLocal_suits (suits : activity.Suits called command)
    (done : performLocal context command activity stage = .ok (flow, kept, after)) :
    kept.Suits called command := by
  cases suits with
  | waiting ticks remaining =>
    simp only [performLocal] at done
    split at done <;> cases done <;> exact .waiting _ _
  | message speaker text message =>
    cases done
    exact .message _ _ _
  | menu choices cancel menu =>
    cases done
    exact .menu _ _ _
  | walking object steps waitEnd framesPerStep walk =>
    simp only [performLocal] at done
    split at done <;> cases done
    exact .walking _ _ _ _ _
  | calling | custom => cases done
  | plain command stateless =>
    rw [performLocal_plain] at done
    split at done <;> cases done
    exact .plain command stateless

theorem performLocal_agrees (suits : activity.Suits called command)
    (ours : ∀ count, activity ≠ .custom count) (here : ∀ inner, activity ≠ .calling inner)
    (kind : String) : performLocal context command activity stage ≠ .error (.stateMismatch kind) := by
  intro refused
  cases suits with
  | waiting ticks remaining =>
    simp only [performLocal] at refused
    split at refused <;> cases refused
  | message | menu => cases refused
  | walking object steps waitEnd framesPerStep walk =>
    simp only [performLocal] at refused
    split at refused
    · rename_i failure fails
      cases refused
      cases Walk.tick_own _ _ _ _ _ _ fails
    · cases refused
  | calling id parameters inner => exact here inner rfl
  | custom kind index count => exact ours count rfl
  | plain command stateless =>
    rw [performLocal_plain] at refused
    split at refused
    · rename_i none
      exact stateless context stage none
    · rename_i failure fails
      cases refused
      cases performPlain_own context fails _ rfl
    · cases refused

end Standard

namespace Language

variable {extension : Extension} {levels : Nat} {context : Context} {command : Command}

theorem begin_custom (levels : Nat) (context : Context) (kind : String) (index : Nat)
    (stage : Stage) :
    (within extension levels).begin context (.custom kind index) stage =
      ((extension.begin index context stage).1.map .custom,
        (extension.begin index context stage).2) := by
  cases levels <;> simp only [within, level] <;>
    rcases extension.begin index context stage with ⟨_ | _, _⟩ <;> rfl

theorem perform_custom (levels : Nat) (context : Context) (kind : String) (index count : Nat)
    (stage : Stage) :
    (within extension levels).perform context (.custom kind index) (.custom count) stage =
      ((extension.perform index context count stage).1.map fun done => (done.1, .custom done.2),
        (extension.perform index context count stage).2) := by
  cases levels <;> simp only [within, level] <;>
    rcases extension.perform index context count stage with ⟨_ | _, _⟩ <;> rfl

theorem begin_cases (levels : Nat) (context : Context) (command : Command) (stage : Stage) :
    (∃ kind index, command = .custom kind index) ∨
      (∀ kind index, command ≠ .custom kind index) ∧
      (within extension levels).begin context command stage =
        (Standard.begin context command stage.world, stage) := by
  cases command with
  | custom kind index => exact .inl ⟨kind, index, rfl⟩
  | _ =>
    right
    constructor
    · rintro kind index ⟨⟩
    · cases levels <;> rfl

theorem begin_accepted (accepting : extension.Accepting) (levels : Nat) (context : Context)
    (command : Command) (stage : Stage) :
    Accepted stage ((within extension levels).begin context command stage) := by
  rcases begin_cases levels context command stage with ⟨kind, index, rfl⟩ | ⟨_, ours⟩
  · rw [begin_custom]
    exact (accepting.begin index context stage).map _
  · rw [ours]
    refine .of_still fun kind refused => ?_
    rcases Standard.begin_refused context refused with own | ⟨_, _, _, deep | ⟨missing, _⟩⟩
    · cases own
    · cases deep
    · cases missing

theorem childrenDone_accepted (accepting : extension.Accepting) (levels : Nat) (context : Context)
    (command : Command) (stage : Stage) :
    Accepted stage ((within extension levels).childrenDone context command stage) := by
  cases command with
  | custom kind index => cases levels <;> exact accepting.childrenDone index context stage
  | _ => cases levels <;> exact .of_still fun _ refused => nomatch refused

end Language

namespace Run

/-- A run that a call may be in the middle of: one level down, and after whatever it was asked. -/
def Reached (extension : Extension) (levels depth : Nat) (called : Run Activity) : Prop :=
  ∃ below reaction trigger moving prompts, levels = below + 1 ∧
    called = (fresh reaction trigger moving false (depth + 1)).respondAll
      (.within extension below) prompts

variable {extension : Extension} {levels depth : Nat} {context : Context} {command : Command}

theorem Reached.respond {called : Run Activity} (reached : Reached extension (levels + 1) depth called)
    (prompt : Prompt) :
    Reached extension (levels + 1) depth (called.respond (.within extension levels) prompt) := by
  obtain ⟨_, reaction, trigger, moving, prompts, ⟨⟩, rfl⟩ := reached
  refine ⟨levels, reaction, trigger, moving, prompts ++ [prompt], rfl, ?_⟩
  simp only [respondAll, List.foldl_append, List.foldl_cons, List.foldl_nil]

/-- Only a call that is not too deep begins, so there is a level below for what it calls. -/
theorem reached_call {world : World} {id : Nat} {parameters : List Operand} {inner : Run Activity}
    (room : maxCallDepth ≤ context.depth + levels)
    (begun : Standard.call context world id parameters = .ok inner) :
    Reached extension levels context.depth inner := by
  obtain ⟨shallow, reaction, values, _, _, rfl⟩ := Standard.call_ok begun
  exact ⟨levels - 1, reaction, _, context.moving, [], by omega, rfl⟩

/-- Every state of a command of the standard language is of the kind that the command begins with. -/
theorem within_keeps (room : maxCallDepth ≤ context.depth + levels) :
    (Language.within extension levels).Keeps context command
      (Activity.Suits (Reached extension levels context.depth) command) where
  begin stage activity begun := by
    rcases Language.begin_cases levels context command stage with ⟨kind, index, rfl⟩ | ⟨ours, begins⟩
    · rw [Language.begin_custom] at begun
      cases answer : (extension.begin index context stage).1 with
      | error failure =>
        rw [answer] at begun
        cases begun
      | ok count =>
        rw [answer] at begun
        cases begun
        exact .custom kind index count
    · rw [begins] at begun
      exact Standard.begin_suits begun ours fun _ _ _ calls => reached_call room calls
  perform stage activity flow kept suits done := by
    rcases Language.perform_cases levels context command activity stage with
      ⟨kind, index, count, rfl, rfl⟩ | ⟨below, id, parameters, called, rfl, rfl, rfl⟩ | here
    · rw [Language.perform_custom] at done
      cases answer : (extension.perform index context count stage).1 with
      | error failure =>
        rw [answer] at done
        cases done
      | ok performed =>
        rw [answer] at done
        cases done
        exact .custom kind index _
    · rw [Language.perform_call] at done
      dsimp only at done
      cases suits with
      | calling _ _ _ reached =>
        split at done <;> cases done
        exact .calling id parameters _ (reached.respond (.tick stage))
    · rw [here] at done
      split at done
      · cases done
      · rename_i performed
        cases done
        exact Standard.performLocal_suits suits performed
  listen event activity suits := by
    cases suits with
    | calling id parameters inner reached =>
      have ⟨below, _, _, _, _, level, _⟩ := reached
      subst level
      exact .calling id parameters _ (reached.respond (.listen event))
    | message speaker text message => cases levels <;> exact .message _ _ _
    | menu choices cancel menu => cases levels <;> exact .menu _ _ _
    | custom kind index count => cases levels <;> exact .custom _ _ _
    | waiting ticks remaining => cases levels <;> exact .waiting _ _
    | walking object steps waitEnd framesPerStep walk => cases levels <;> exact .walking _ _ _ _ _
    | plain command stateless =>
      cases levels <;> cases command <;> exact .plain _ stateless

theorem fail_matched (run : Run Activity) (node : Nat) (command : Command) {failure : Failure}
    {stage : Stage} (matched : stage.Matched) (agrees : ∀ kind, failure ≠ .stateMismatch kind) :
    (run.fail node command failure stage).2.Matched := by
  rcases stage_of_fail run node command failure stage with ⟨_, _, same⟩ | ⟨_, reported⟩
  · rw [same]
    exact matched
  · rw [reported]
    exact List.forall_mem_append.mpr ⟨matched, by simpa using agrees⟩

theorem follow_matched (accepting : extension.Accepting) (run : Run Activity) (cursor : Cursor)
    (flow : Flow) {stage : Stage} (matched : stage.Matched) :
    (run.follow (.within extension levels) cursor flow stage).2.Matched := by
  fun_induction follow (Language.within extension levels) run cursor flow stage with
  | case1 | case2 | case3 | case4 | case5 | case6 | case7 | case8 => exact matched
  | case9 run cursor stage count next jump moved back command carried answer after asked ih =>
    have accepted := Language.childrenDone_accepted accepting levels (run.context next.node) command
      stage
    rw [asked] at accepted
    exact ih (accepted.matched matched)
  | case10 run cursor stage count next jump moved back command carried failure after asked =>
    have accepted := Language.childrenDone_accepted accepting levels (run.context next.node) command
      stage
    rw [asked] at accepted
    refine fail_matched moved _ _ (accepted.matched matched) ?_
    rintro kind rfl
    exact accepted.agrees kind rfl

/-- A command accepts its state if the runs below do. -/
theorem perform_accepted (accepting : extension.Accepting) {activity : Activity} {stage : Stage}
    (suits : activity.Suits (Reached extension levels depth) command)
    (below : ∀ lower called, levels = lower + 1 → Reached extension levels depth called →
      stage.Matched → (called.tick (.within extension lower) stage).2.Matched) :
    Accepted stage ((Language.within extension levels).perform context command activity stage) := by
  have here (ours : ∀ count, activity ≠ .custom count) (still : ∀ inner, activity ≠ .calling inner) :
      Accepted stage
        ((Language.within extension levels).perform context command activity stage) := by
    rcases Language.perform_cases levels context command activity stage with
      ⟨_, _, count, _, rfl⟩ | ⟨_, _, _, inner, _, _, rfl⟩ | here
    · exact absurd rfl (ours count)
    · exact absurd rfl (still inner)
    · rw [here]
      cases done : Standard.performLocal context command activity stage with
      | error failure =>
        refine .of_still ?_
        rintro kind ⟨⟩
        exact Standard.performLocal_agrees suits ours still kind done
      | ok performed =>
        refine ⟨fun _ refused => (nomatch refused), fun matched => ?_⟩
        rw [Stage.Matched, (Standard.performLocal_deed done).diagnostics_eq]
        exact matched
  cases suits with
  | custom kind index count =>
    rw [Language.perform_custom]
    exact (accepting.perform index context count stage).map _
  | calling id parameters inner reached =>
    have ⟨lower, _, _, _, _, level, _⟩ := reached
    subst level
    have after := below lower inner rfl reached
    rw [Language.perform_call]
    dsimp only
    split <;> exact ⟨fun _ refused => (nomatch refused), after⟩
  | _ => exact here (fun _ same => nomatch same) fun _ same => nomatch same

/-- A tick of a run with a state of its own refuses none, if the runs below refuse none. -/
theorem tick_matched (accepting : extension.Accepting) {run : Run Activity}
    (room : maxCallDepth ≤ run.depth + levels)
    (held : ∀ cursor command activity, run.cursor = some cursor →
      run.tree.item? cursor.node = some command → run.state = some activity →
      activity.Suits (Reached extension levels run.depth) command)
    (below : ∀ lower called stage, levels = lower + 1 → Reached extension levels run.depth called →
      stage.Matched → (called.tick (.within extension lower) stage).2.Matched)
    {stage : Stage} (matched : stage.Matched) :
    (run.tick (.within extension levels) stage).2.Matched := by
  cases located : run.cursor with
  | none =>
    rw [tick_ended stage located]
    exact matched
  | some cursor =>
    cases carried : run.tree.item? cursor.node with
    | none =>
      rw [tick_root stage located carried]
      exact follow_matched accepting run cursor _ matched
    | some command =>
      have prepared : Accepted stage
          (run.prepare (.within extension levels) cursor.node command stage) := by
        unfold prepare
        split
        · exact .of_still fun _ refused => nomatch refused
        · exact Language.begin_accepted accepting levels _ command stage
      have suits (activity : Activity) (begun : Stage)
          (ready : run.prepare (.within extension levels) cursor.node command stage =
            (.ok activity, begun)) :
          activity.Suits (Reached extension levels run.depth) command := by
        unfold prepare at ready
        split at ready
        · rename_i kept
          cases ready
          exact held cursor command _ located carried kept
        · have keeps : (Language.within extension levels).Keeps (run.context cursor.node) command
              (Activity.Suits (Reached extension levels run.depth) command) := within_keeps room
          exact keeps.begin stage activity (congrArg Prod.fst ready)
      have accepts (activity : Activity) (begun : Stage)
          (ready : run.prepare (.within extension levels) cursor.node command stage =
            (.ok activity, begun)) :
          Accepted begun ((Language.within extension levels).perform (run.context cursor.node)
            command activity begun) :=
        perform_accepted accepting (suits activity begun ready)
          fun lower called => below lower called begun
      cases inPlace : (Language.within extension levels).runsBeside command && !run.isParallel &&
          !run.moving with
      | true =>
        rw [tick_beside stage located carried inPlace]
        exact follow_matched accepting run cursor _ matched
      | false =>
        rcases tick_inPlace stage located carried inPlace with
          ⟨failure, begun, ready, ticked⟩ | ⟨activity, begun, failure, after, ready, done, ticked⟩ |
          ⟨activity, begun, flow, kept, after, ready, done, ticked⟩
        · rw [ready] at prepared
          rw [ticked]
          refine fail_matched run _ _ (prepared.matched matched) ?_
          rintro kind rfl
          exact prepared.agrees kind rfl
        · have accepted := accepts activity begun ready
          rw [ready] at prepared
          rw [done] at accepted
          rw [ticked]
          refine fail_matched run _ _ (accepted.matched (prepared.matched matched)) ?_
          rintro kind rfl
          exact accepted.agrees kind rfl
        · have accepted := accepts activity begun ready
          rw [ready] at prepared
          rw [done] at accepted
          rw [ticked]
          exact follow_matched accepting _ cursor flow
            (accepted.matched (prepared.matched matched))

/-- Whatever a run has been asked for before, its next tick refuses no state. -/
theorem respondAll_matched (accepting : extension.Accepting) (reaction : Reaction)
    (trigger : Trigger) (moving holdsPause : Bool) (room : maxCallDepth ≤ depth + levels)
    (prompts : List Prompt) {stage : Stage} (matched : stage.Matched) :
    (((fresh reaction trigger moving holdsPause depth).respondAll (.within extension levels)
      prompts).tick (.within extension levels) stage).2.Matched := by
  -- A called run is such a run itself, one level below.
  induction levels using Nat.strongRecOn
    generalizing reaction trigger moving holdsPause depth prompts stage with
  | ind levels ih =>
    have living := living_fresh (.within extension levels) reaction trigger moving holdsPause depth
      prompts
    have answers := log_of (.within extension levels)
      (fresh reaction trigger moving holdsPause depth) prompts
    have same := respondAll_continues (.within extension levels)
      (fresh reaction trigger moving holdsPause depth) prompts
    dsimp only at living
    generalize (fresh reaction trigger moving holdsPause depth : Run Activity).respondAll
      (.within extension levels) prompts = run at living same ⊢
    have deep : run.depth = depth := by
      obtain ⟨_, _, _, rfl⟩ := same
      rfl
    rw [← same.context_eq] at answers
    subst deep
    refine tick_matched accepting room ?_ ?_ matched
    · intro cursor command activity located carried begun
      have stems := living.attributed.stems cursor.node activity (by simp [standing, located, begun])
      exact stems.fits carried answers (within_keeps room)
    · rintro lower called stage rfl ⟨_, reaction, trigger, moving, prompts, ⟨⟩, rfl⟩ matched
      exact ih lower (by omega) reaction trigger moving false (by omega) prompts matched

/--
Whatever the commands of a reaction answer, and whatever a run of it is asked for: between two
prompts the cursor enters its node, every prompt is answered as the life of the command there allows,
and every state that is held or handed over was begun by that command after that landing. Hence in
the standard language a command is only ever handed states of its own kind, and no tick refuses one,
however deep the calls.
-/
theorem hooks_follow_landings (language : Language σ) (reaction : Reaction) (trigger : Trigger)
    (moving holdsPause : Bool) (depth : Nat) :
    let run : Run σ := fresh reaction trigger moving holdsPause depth
    (∀ prompts prompt,
      let here := run.respondAll language prompts
      (∀ cursor, here.cursor = some cursor → cursor.phase = .enter) ∧
      Answered (run.forksAt language) here.standing prompt (here.calls language prompt)
        (here.respond language prompt).standing) ∧
    (∀ prompts,
      let log := run.log language prompts
      (∀ call ∈ log, call.Of language run.context) ∧ Traced log ∧
      ∀ node state, (run.respondAll language prompts).standing = .begun node state →
        Stems node log state) ∧
    ∀ (extension : Extension) (prompts : List Prompt),
      let standard := Language.atDepth extension depth
      let run : Run Activity := fresh reaction trigger moving holdsPause depth
      (∀ call ∈ run.log standard prompts, ∀ node activity command,
        call.given? = some (node, activity) → reaction.tree.item? node = some command →
        activity.Suits (Reached extension (maxCallDepth - depth) depth) command) ∧
      (extension.Accepting → ∀ stage, stage.Matched →
        ((run.respondAll standard prompts).tick standard stage).2.Matched) := by
  refine ⟨fun prompts prompt => ?_, fun prompts => ?_, fun extension prompts => ⟨?_, ?_⟩⟩
  · have living := living_fresh language reaction trigger moving holdsPause depth prompts
    rw [← (respondAll_continues language _ prompts).forksAt_eq]
    exact ⟨living.seated.entering, living.answered prompt⟩
  · have living := living_fresh language reaction trigger moving holdsPause depth prompts
    exact ⟨log_of language _ prompts, living.attributed.traced, living.attributed.stems⟩
  · intro call member node activity command handed carried
    have living := living_fresh (.atDepth extension depth) reaction trigger moving holdsPause depth
      prompts
    have room : maxCallDepth ≤ depth + (maxCallDepth - depth) := by omega
    exact living.attributed.traced.fits member handed carried (log_of _ _ prompts) (within_keeps room)
  · intro accepting stage matched
    exact respondAll_matched accepting reaction trigger moving holdsPause (by omega) prompts matched

end Run

theorem Probe.accepting (probes : Array Probe) : (Probe.extension probes).Accepting := by
  have fails {α : Type} (fault : Prop) [Decidable fault] (answer : α) (kind : String) :
      (if fault then .error Probe.failure else .ok answer : Except Failure α) ≠
        .error (.stateMismatch kind) := by
    intro refused
    split at refused <;> cases refused
  refine ⟨fun index context stage => ⟨fails _ _, id⟩, fun index context count stage => ?_,
    fun index context stage => ⟨fails _ _, id⟩⟩
  simp only [Probe.extension, Probe.perform]
  split
  · refine ⟨?_, id⟩
    rintro kind ⟨⟩
  · constructor
    · rintro kind ⟨⟩
    · intro matched
      split
      · intro diagnostic recorded
        refine matched diagnostic ?_
        simp only [Effects.requestScene] at recorded
        split at recorded <;> exact recorded
      · exact matched

def song : Array Probe :=
  #[⟨"refrain", [.stay, .next], .stay, false, none, none⟩,
    ⟨"verse", [.next], .next, false, none, none⟩]

def sung : Reaction :=
  ⟨.loose 0, "song", (Tree.single (.custom "probe" 0)).add 1 (.custom "probe" 1) (by decide), false⟩

def Call.label {σ : Type} : Call σ → String × Nat
  | begin node _ => ("begin", node)
  | perform node _ _ => ("perform", node)
  | childrenDone node _ _ => ("childrenDone", node)
  | listen node _ _ _ => ("listen", node)
  | draw node _ _ => ("draw", node)

theorem refrain_begins_afresh :
    let language := Language.atDepth (Probe.extension song) 0
    let run : Run Activity := Run.fresh sung {} false false 0
    let prompts := [.tick ⟨{}, {}⟩, .listen (.keyPressed .action), .tick ⟨{}, {}⟩, .draw,
      .tick ⟨{}, {}⟩, .tick ⟨{}, {}⟩]
    (run.log language prompts).map Call.label =
      [("begin", 1), ("perform", 1), ("listen", 1), ("perform", 1), ("begin", 2), ("perform", 2),
        ("childrenDone", 1), ("begin", 1), ("perform", 1)] ∧
      Traced (run.log language prompts) ∧
      ((run.respondAll language prompts).tick language ⟨{}, {}⟩).2.Matched := by
  obtain ⟨_, logged, accepted⟩ := Run.hooks_follow_landings
    (Language.atDepth (Probe.extension song) 0) sung {} false false 0
  refine ⟨by decide +kernel, (logged _).2.1, ?_⟩
  refine (accepted (Probe.extension song) _).2 (Probe.accepting song) ⟨{}, {}⟩ ?_
  intro diagnostic recorded
  cases recorded

end TileScript
