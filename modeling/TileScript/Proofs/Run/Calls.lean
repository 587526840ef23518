import TileScript.Proofs.Run.Tick

namespace TileScript

inductive Call (σ : Type) where
  | begin (node : Nat) (answer : Except Failure σ)
  | perform (node : Nat) (given : σ) (answer : Except Failure (Flow × σ))
  /-- The hook is handed no state; `held` is the one the run has at that time. -/
  | childrenDone (node : Nat) (held : Option σ) (answer : Except Failure Flow)
  | listen (node : Nat) (event : InputEvent) (given : σ) (answer : σ × List String)
  | draw (node : Nat) (given : σ) (lines : List String)

def Call.given? {σ : Type} : Call σ → Option (Nat × σ)
  | begin _ _ | childrenDone _ _ _ => none
  | perform node given _ | listen node _ given _ | draw node given _ => some (node, given)

def Call.Of {σ : Type} (language : Language σ) (context : Nat → Context) (call : Call σ) : Prop :=
  match call with
  | begin node answer => ∃ command stage, (context node).tree.item? node = some command ∧
      (language.begin (context node) command stage).1 = answer
  | perform node given answer => ∃ command stage, (context node).tree.item? node = some command ∧
      (language.perform (context node) command given stage).1 = answer
  | childrenDone node _ answer => ∃ command stage, (context node).tree.item? node = some command ∧
      (language.childrenDone (context node) command stage).1 = answer
  | listen node event given answer => ∃ command, (context node).tree.item? node = some command ∧
      language.listen command event given = answer
  | draw node given lines => ∃ command, (context node).tree.item? node = some command ∧
      language.draw command given = lines

namespace Run

variable {σ : Type}

def followLogged (language : Language σ) (run : Run σ) (cursor : Cursor) (flow : Flow)
    (stage : Stage) : List (Call σ) × Run σ × Stage :=
  match flow with
  | .finish => ([], run.stop, stage)
  | .stay | .advance 0 =>
    match cursor.phase with
    | .enter => ([], run, stage)
    | .back => ([], { run with cursor := some (.enter cursor.node), state := none }, stage)
  | .advance (count + 1) =>
    match _jump : run.tree.advance? cursor (count + 1) with
    | none => ([], run.stop, stage)
    | some next =>
      let moved := { run with cursor := some next, state := none }
      match next.phase with
      | .enter => ([], moved, stage)
      | .back =>
        match run.tree.item? next.node with
        | none => ([], moved.stop, stage)
        | some command =>
          match language.childrenDone (run.context next.node) command stage with
          | (.ok answer, after) =>
            let followed := moved.followLogged language next answer after
            (.childrenDone next.node moved.state (.ok answer) :: followed.1, followed.2)
          | (.error failure, after) =>
            ([.childrenDone next.node moved.state (.error failure)],
              moved.fail next.node command failure after)
termination_by run.tree.remaining cursor
decreasing_by exact Tree.remaining_advance?_lt _jump

def prepareLogged (language : Language σ) (run : Run σ) (node : Nat) (command : Command)
    (stage : Stage) : List (Call σ) × Except Failure σ × Stage :=
  match run.state with
  | some state => ([], .ok state, stage)
  | none =>
    let begun := language.begin (run.context node) command stage
    ([.begin node begun.1], begun)

def tickLogged (language : Language σ) (run : Run σ) (stage : Stage) :
    List (Call σ) × Run σ × Stage :=
  match run.cursor with
  | none => ([], run, stage)
  | some cursor =>
    match run.tree.item? cursor.node with
    | none => run.followLogged language cursor .next stage
    | some command =>
      if language.runsBeside command && !run.isParallel && !run.moving then
        run.followLogged language cursor (.advance (run.tree.skipOffset cursor.node))
          { stage with
            effects := stage.effects.fork ⟨run.reaction, run.trigger, cursor.node⟩ }
      else
        match run.prepareLogged language cursor.node command stage with
        | (calls, .error failure, begun) => (calls, run.fail cursor.node command failure begun)
        | (calls, .ok state, begun) =>
          match language.perform (run.context cursor.node) command state begun with
          | (.error failure, performed) =>
            (calls ++ [.perform cursor.node state (.error failure)],
              run.fail cursor.node command failure performed)
          | (.ok (flow, kept), performed) =>
            let followed :=
              { run with state := some kept }.followLogged language cursor flow performed
            (calls ++ .perform cursor.node state (.ok (flow, kept)) :: followed.1, followed.2)

def listenLogged (language : Language σ) (run : Run σ) (event : InputEvent) :
    List (Call σ) × Run σ × List String :=
  match run.node?, run.command?, run.state with
  | some node, some command, some state =>
    let heard := language.listen command event state
    ([.listen node event state heard], { run with state := some heard.1 }, heard.2)
  | _, _, _ => ([], run, [])

def drawLogged (language : Language σ) (run : Run σ) : List (Call σ) × List String :=
  match run.node?, run.command?, run.state with
  | some node, some command, some state =>
    let lines := language.draw command state
    ([.draw node state lines], lines)
  | _, _, _ => ([], [])

variable (language : Language σ) (run : Run σ)

theorem followLogged_eq (cursor : Cursor) (flow : Flow) (stage : Stage) :
    (run.followLogged language cursor flow stage).2 = run.follow language cursor flow stage := by
  fun_induction followLogged language run cursor flow stage with
  | case1 | case2 _ _ _ phase | case3 _ _ _ phase | case4 _ _ _ phase | case5 _ _ _ phase =>
    simp only [follow, *]
  | case6 run cursor stage count out => rw [follow_out language run stage out]
  | case7 run cursor stage count next jump moved phase =>
    simp only [follow_jump language run stage jump, phase]
    rfl
  | case8 run cursor stage count next jump moved phase bare =>
    simp only [follow_jump language run stage jump, phase, bare]
    rfl
  | case9 run cursor stage count next jump moved phase command carried answer after asked followed ih =>
    simp only [follow_jump language run stage jump, phase, carried, asked]
    exact ih
  | case10 run cursor stage count next jump moved phase command carried failure after asked =>
    simp only [follow_jump language run stage jump, phase, carried, asked]
    rfl

theorem prepareLogged_eq (node : Nat) (command : Command) (stage : Stage) :
    (run.prepareLogged language node command stage).2 =
      run.prepare language node command stage := by
  unfold prepareLogged prepare
  cases run.state <;> rfl

theorem tickLogged_eq (stage : Stage) :
    (run.tickLogged language stage).2 = run.tick language stage := by
  cases located : run.cursor with
  | none => simp only [tickLogged, tick, located]
  | some cursor =>
    cases carried : run.tree.item? cursor.node with
    | none =>
      simp only [tickLogged, tick, located, carried]
      exact followLogged_eq language run _ _ _
    | some command =>
      simp only [tickLogged, tick, located, carried]
      split
      · exact followLogged_eq language run _ _ _
      · rw [← prepareLogged_eq language run cursor.node command stage]
        rcases run.prepareLogged language cursor.node command stage with
          ⟨calls, failure | state, begun⟩
        · rfl
        · dsimp only
          rcases language.perform (run.context cursor.node) command state begun with
            ⟨failure | ⟨flow, kept⟩, performed⟩
          · rfl
          · exact followLogged_eq language _ cursor flow performed

theorem listenLogged_eq (event : InputEvent) :
    (run.listenLogged language event).2 = run.listen language event := by
  unfold listenLogged listen command?
  cases run.node? with
  | none => rfl
  | some node =>
    simp only [Option.bind_some]
    cases run.tree.item? node <;> cases run.state <;> rfl

theorem drawLogged_eq : (run.drawLogged language).2 = run.draw language := by
  unfold drawLogged draw command?
  cases run.node? with
  | none => rfl
  | some node =>
    simp only [Option.bind_some]
    cases run.tree.item? node <;> cases run.state <;> rfl

theorem followLogged_of (cursor : Cursor) (flow : Flow) (stage : Stage) :
    ∀ call ∈ (run.followLogged language cursor flow stage).1, call.Of language run.context := by
  fun_induction followLogged language run cursor flow stage with
  | case1 | case2 | case3 | case4 | case5 | case6 | case7 | case8 =>
    intro call member
    cases member
  | case9 run cursor stage count next jump moved phase command carried answer after asked followed ih =>
    rw [List.forall_mem_cons]
    exact ⟨⟨command, stage, carried, congrArg Prod.fst asked⟩, ih⟩
  | case10 run cursor stage count next jump moved phase command carried failure after asked =>
    rw [List.forall_mem_singleton]
    exact ⟨command, stage, carried, congrArg Prod.fst asked⟩

inductive Ready (node : Nat) (command : Command) (stage : Stage) : List (Call σ) → σ → Stage → Prop
  | held (state : σ) (begun : run.state = some state) : Ready node command stage [] state stage
  | fresh (state : σ) (after : Stage) (idle : run.state = none)
      (begins : language.begin (run.context node) command stage = (.ok state, after)) :
      Ready node command stage [.begin node (.ok state)] state after

inductive Turn (cursor : Cursor) (command : Command) (stage : Stage) :
    List (Call σ) × Run σ × Stage → Prop
  | refused (failure : Failure) (after : Stage) (idle : run.state = none)
      (begins : language.begin (run.context cursor.node) command stage = (.error failure, after)) :
      Turn cursor command stage
        ([.begin cursor.node (.error failure)], run.fail cursor.node command failure after)
  | failed (calls : List (Call σ)) (state : σ) (begun : Stage) (failure : Failure) (after : Stage)
      (ready : Ready language run cursor.node command stage calls state begun)
      (done : language.perform (run.context cursor.node) command state begun =
        (.error failure, after)) :
      Turn cursor command stage (calls ++ [.perform cursor.node state (.error failure)],
        run.fail cursor.node command failure after)
  | done (calls : List (Call σ)) (state : σ) (begun : Stage) (flow : Flow) (kept : σ)
      (after : Stage) (ready : Ready language run cursor.node command stage calls state begun)
      (done : language.perform (run.context cursor.node) command state begun =
        (.ok (flow, kept), after)) :
      Turn cursor command stage
        (calls ++ .perform cursor.node state (.ok (flow, kept)) ::
            ({ run with state := some kept }.followLogged language cursor flow after).1,
          ({ run with state := some kept }.followLogged language cursor flow after).2)

theorem Ready.of {node : Nat} {command : Command} {stage begun : Stage} {calls : List (Call σ)}
    {state : σ} (ready : Ready language run node command stage calls state begun)
    (carried : run.tree.item? node = some command) :
    ∀ call ∈ calls, call.Of language run.context := by
  cases ready with
  | held =>
    intro call member
    cases member
  | fresh state after idle begins =>
    rw [List.forall_mem_singleton]
    exact ⟨command, stage, carried, congrArg Prod.fst begins⟩

variable {language run}

theorem tickLogged_root {cursor : Cursor} (stage : Stage) (located : run.cursor = some cursor)
    (bare : run.tree.item? cursor.node = none) :
    run.tickLogged language stage = run.followLogged language cursor .next stage := by
  simp only [tickLogged, located, bare]

theorem tickLogged_beside {cursor : Cursor} {command : Command} (stage : Stage)
    (located : run.cursor = some cursor) (carried : run.tree.item? cursor.node = some command)
    (beside : (language.runsBeside command && !run.isParallel && !run.moving) = true) :
    run.tickLogged language stage =
      run.followLogged language cursor (.advance (run.tree.skipOffset cursor.node))
        { stage with effects := stage.effects.fork ⟨run.reaction, run.trigger, cursor.node⟩ } := by
  simp only [tickLogged, located, carried, beside, ↓reduceIte]

theorem tickLogged_turn {cursor : Cursor} {command : Command} (stage : Stage)
    (located : run.cursor = some cursor) (carried : run.tree.item? cursor.node = some command)
    (inPlace : (language.runsBeside command && !run.isParallel && !run.moving) = false) :
    Turn language run cursor command stage (run.tickLogged language stage) := by
  have ready (calls : List (Call σ)) (state : σ) (begun : Stage)
      (prepared : run.prepareLogged language cursor.node command stage = (calls, .ok state, begun)) :
      Ready language run cursor.node command stage calls state begun := by
    unfold prepareLogged at prepared
    split at prepared
    · rename_i kept
      cases prepared
      exact .held state kept
    · rename_i idle
      obtain ⟨rfl, begins⟩ := Prod.mk.inj prepared
      rw [begins]
      exact .fresh state begun idle begins
  rcases prepared : run.prepareLogged language cursor.node command stage with
    ⟨calls, failure | state, begun⟩
  · have ticked : run.tickLogged language stage =
        (calls, run.fail cursor.node command failure begun) := by
      simp only [tickLogged, located, carried, inPlace, prepared, Bool.false_eq_true, ↓reduceIte]
    unfold prepareLogged at prepared
    split at prepared
    · cases prepared
    · rename_i idle
      obtain ⟨rfl, begins⟩ := Prod.mk.inj prepared
      rw [ticked, begins]
      exact .refused failure begun idle begins
  · rcases done : language.perform (run.context cursor.node) command state begun with
      ⟨failure | ⟨flow, kept⟩, after⟩
    · have ticked : run.tickLogged language stage =
          (calls ++ [.perform cursor.node state (.error failure)],
            run.fail cursor.node command failure after) := by
        simp only [tickLogged, located, carried, inPlace, prepared, done, Bool.false_eq_true,
          ↓reduceIte]
      rw [ticked]
      exact .failed calls state begun failure after (ready _ _ _ prepared) done
    · have ticked : run.tickLogged language stage =
          (calls ++ .perform cursor.node state (.ok (flow, kept)) ::
              ({ run with state := some kept }.followLogged language cursor flow after).1,
            ({ run with state := some kept }.followLogged language cursor flow after).2) := by
        simp only [tickLogged, located, carried, inPlace, prepared, done, Bool.false_eq_true,
          ↓reduceIte]
      rw [ticked]
      exact .done calls state begun flow kept after (ready _ _ _ prepared) done

theorem tickLogged_of (stage : Stage) :
    ∀ call ∈ (run.tickLogged language stage).1, call.Of language run.context := by
  cases located : run.cursor with
  | none =>
    simp only [tickLogged, located]
    intro call member
    cases member
  | some cursor =>
    cases carried : run.tree.item? cursor.node with
    | none =>
      rw [tickLogged_root stage located carried]
      exact followLogged_of language run _ _ _
    | some command =>
      cases inPlace : language.runsBeside command && !run.isParallel && !run.moving with
      | true =>
        rw [tickLogged_beside stage located carried inPlace]
        exact followLogged_of language run _ _ _
      | false =>
        have turn := tickLogged_turn stage located carried inPlace
        generalize run.tickLogged language stage = ticked at turn ⊢
        cases turn with
        | refused failure after idle begins =>
          rw [List.forall_mem_singleton]
          exact ⟨command, stage, carried, congrArg Prod.fst begins⟩
        | failed calls state begun failure after ready done =>
          rw [List.forall_mem_append, List.forall_mem_singleton]
          exact ⟨ready.of _ _ carried, command, begun, carried, congrArg Prod.fst done⟩
        | done calls state begun flow kept after ready done =>
          rw [List.forall_mem_append, List.forall_mem_cons]
          exact ⟨ready.of _ _ carried, ⟨command, begun, carried, congrArg Prod.fst done⟩,
            followLogged_of language _ _ _ _⟩

theorem listenLogged_of (event : InputEvent) :
    ∀ call ∈ (run.listenLogged language event).1, call.Of language run.context := by
  unfold listenLogged
  split
  · rename_i node command state located named begun
    have carried : run.tree.item? node = some command := by simpa [command?, located] using named
    rw [List.forall_mem_singleton]
    exact ⟨command, carried, rfl⟩
  · intro call member
    cases member

theorem drawLogged_of : ∀ call ∈ (run.drawLogged language).1, call.Of language run.context := by
  unfold drawLogged
  split
  · rename_i node command state located named begun
    have carried : run.tree.item? node = some command := by simpa [command?, located] using named
    rw [List.forall_mem_singleton]
    exact ⟨command, carried, rfl⟩
  · intro call member
    cases member

end Run

inductive Prompt where
  | tick (stage : Stage)
  | listen (event : InputEvent)
  | draw

namespace Run

variable {σ : Type} (language : Language σ) (run : Run σ)

def respond : Prompt → Run σ
  | .tick stage => (run.tick language stage).1
  | .listen event => (run.listen language event).1
  | .draw => run

def calls : Prompt → List (Call σ)
  | .tick stage => (run.tickLogged language stage).1
  | .listen event => (run.listenLogged language event).1
  | .draw => (run.drawLogged language).1

def respondAll (prompts : List Prompt) : Run σ := prompts.foldl (respond language) run

def log (run : Run σ) : List Prompt → List (Call σ)
  | [] => []
  | prompt :: rest => run.calls language prompt ++ (run.respond language prompt).log rest

theorem calls_of (prompt : Prompt) :
    ∀ call ∈ run.calls language prompt, call.Of language run.context := by
  cases prompt with
  | tick stage => exact tickLogged_of stage
  | listen event => exact listenLogged_of event
  | draw => exact drawLogged_of

theorem respond_continues (prompt : Prompt) : Continues run (run.respond language prompt) := by
  cases prompt with
  | tick stage => exact tick_continues language run stage
  | listen event => exact listen_continues language run event
  | draw => exact .refl run

theorem respondAll_continues (prompts : List Prompt) :
    Continues run (run.respondAll language prompts) := by
  induction prompts generalizing run with
  | nil => exact .refl run
  | cons prompt rest ih => exact (respond_continues language run prompt).trans (ih _)

theorem respondAll_append (earlier later : List Prompt) :
    run.respondAll language (earlier ++ later) =
      (run.respondAll language earlier).respondAll language later :=
  List.foldl_append

theorem log_append (earlier later : List Prompt) :
    run.log language (earlier ++ later) =
      run.log language earlier ++ (run.respondAll language earlier).log language later := by
  induction earlier generalizing run with
  | nil => rfl
  | cons prompt earlier ih =>
    rw [List.cons_append, log, ih, log, List.append_assoc]
    rfl

theorem tree_of_respondAll (prompts : List Prompt) :
    (run.respondAll language prompts).tree = run.tree := by
  obtain ⟨_, _, _, same⟩ := respondAll_continues language run prompts
  rw [same]
  rfl

theorem Continues.context_eq {before after : Run σ} (continues : Continues before after) :
    after.context = before.context := by
  obtain ⟨_, _, _, rfl⟩ := continues
  rfl

theorem log_of (prompts : List Prompt) :
    ∀ call ∈ run.log language prompts, call.Of language run.context := by
  induction prompts generalizing run with
  | nil =>
    intro call member
    cases member
  | cons prompt rest ih =>
    rw [log, List.forall_mem_append]
    refine ⟨calls_of language run prompt, ?_⟩
    rw [← (respond_continues language run prompt).context_eq]
    exact ih _

end Run

end TileScript
