import TileScript.Proofs.Run.Calls
import TileScript.Proofs.Run.Seats

namespace TileScript

def Flow.Rests (flow : Flow) : Prop := flow = .stay ∨ flow = .advance 0

inductive Standing (σ : Type) where
  | ended
  | landed (node : Nat)
  | begun (node : Nat) (state : σ)

variable {σ : Type}

/-- The way from a node to the next landing: nodes that are come back to, none of them handed a
state and no state held meanwhile. A node that stays when it is come back to is landed on afresh. -/
inductive Onward : List (Call σ) → Standing σ → Prop
  | out : Onward [] .ended
  | lands (node : Nat) : Onward [] (.landed node)
  | fails (node : Nat) (failure : Failure) :
      Onward [.childrenDone node none (.error failure)] .ended
  | back (node : Nat) (flow : Flow) (rests : flow.Rests) :
      Onward [.childrenDone node none (.ok flow)] (.landed node)
  | on (node : Nat) (flow : Flow) (moves : ¬ flow.Rests) {calls : List (Call σ)}
      {after : Standing σ} (onward : Onward calls after) :
      Onward (.childrenDone node none (.ok flow) :: calls) after

inductive Performed (node : Nat) (state : σ) : List (Call σ) → Standing σ → Prop
  | fails (failure : Failure) : Performed node state [.perform node state (.error failure)] .ended
  | rests (flow : Flow) (kept : σ) (rests : flow.Rests) :
      Performed node state [.perform node state (.ok (flow, kept))] (.begun node kept)
  | leaves (flow : Flow) (kept : σ) (moves : ¬ flow.Rests) {calls : List (Call σ)}
      {after : Standing σ} (onward : Onward calls after) :
      Performed node state (.perform node state (.ok (flow, kept)) :: calls) after

/-- What a run may do on a prompt, given which nodes are forked. A command begins in the first tick
after the landing, directly before it is performed; it hears and draws while it has begun. -/
inductive Answered (forks : Nat → Bool) :
    Standing σ → Prompt → List (Call σ) → Standing σ → Prop
  | idle (prompt : Prompt) : Answered forks .ended prompt [] .ended
  | deaf (node : Nat) (event : InputEvent) :
      Answered forks (.landed node) (.listen event) [] (.landed node)
  | unseen (node : Nat) : Answered forks (.landed node) .draw [] (.landed node)
  | hears (node : Nat) (state : σ) (event : InputEvent) (answer : σ × List String) :
      Answered forks (.begun node state) (.listen event) [.listen node event state answer]
        (.begun node answer.1)
  | draws (node : Nat) (state : σ) (lines : List String) :
      Answered forks (.begun node state) .draw [.draw node state lines] (.begun node state)
  | forked (node : Nat) (stage : Stage) (beside : forks node = true) {calls : List (Call σ)}
      {after : Standing σ} (onward : Onward calls after) :
      Answered forks (.landed node) (.tick stage) calls after
  | refused (node : Nat) (stage : Stage) (inPlace : forks node = false) (failure : Failure) :
      Answered forks (.landed node) (.tick stage) [.begin node (.error failure)] .ended
  | begins (node : Nat) (stage : Stage) (inPlace : forks node = false) (state : σ)
      {calls : List (Call σ)} {after : Standing σ} (performed : Performed node state calls after) :
      Answered forks (.landed node) (.tick stage) (.begin node (.ok state) :: calls) after
  | goesOn (node : Nat) (stage : Stage) (state : σ) {calls : List (Call σ)} {after : Standing σ}
      (performed : Performed node state calls after) :
      Answered forks (.begun node state) (.tick stage) calls after

inductive Kept (node : Nat) (first : σ) : List (Call σ) → σ → Prop
  | nothing : Kept node first [] first
  | performed {calls : List (Call σ)} {state : σ} (earlier : Kept node first calls state)
      (flow : Flow) (kept : σ) (rests : flow.Rests) :
      Kept node first (calls ++ [.perform node state (.ok (flow, kept))]) kept
  | heard {calls : List (Call σ)} {state : σ} (earlier : Kept node first calls state)
      (event : InputEvent) (answer : σ × List String) :
      Kept node first (calls ++ [.listen node event state answer]) answer.1
  | drawn {calls : List (Call σ)} {state : σ} (earlier : Kept node first calls state)
      (lines : List String) : Kept node first (calls ++ [.draw node state lines]) state

def Stems (node : Nat) (log : List (Call σ)) (state : σ) : Prop :=
  ∃ before first since, log = before ++ .begin node (.ok first) :: since ∧
    Kept node first since state

def Traced (log : List (Call σ)) : Prop :=
  ∀ earlier call later, log = earlier ++ call :: later →
    ∀ node state, call.given? = some (node, state) → Stems node earlier state

section Lineage

variable {forks : Nat → Bool} {node : Nat} {state : σ} {log calls : List (Call σ)}
  {before after : Standing σ} {prompt : Prompt}

namespace Stems

theorem begins (node : Nat) (log : List (Call σ)) (state : σ) :
    Stems node (log ++ [.begin node (.ok state)]) state :=
  ⟨log, state, [], rfl, .nothing⟩

theorem performed (stems : Stems node log state) (flow : Flow) (kept : σ) (rests : flow.Rests) :
    Stems node (log ++ [.perform node state (.ok (flow, kept))]) kept := by
  obtain ⟨before, first, since, rfl, held⟩ := stems
  exact ⟨before, first, _, List.append_assoc .., held.performed flow kept rests⟩

theorem heard (stems : Stems node log state) (event : InputEvent) (answer : σ × List String) :
    Stems node (log ++ [.listen node event state answer]) answer.1 := by
  obtain ⟨before, first, since, rfl, held⟩ := stems
  exact ⟨before, first, _, List.append_assoc .., held.heard event answer⟩

theorem drawn (stems : Stems node log state) (lines : List String) :
    Stems node (log ++ [.draw node state lines]) state := by
  obtain ⟨before, first, since, rfl, held⟩ := stems
  exact ⟨before, first, _, List.append_assoc .., held.drawn lines⟩

end Stems

namespace Traced

theorem nil : Traced ([] : List (Call σ)) := by
  intro earlier call later split
  simp at split

theorem snoc (traced : Traced log) {call : Call σ}
    (stems : ∀ node state, call.given? = some (node, state) → Stems node log state) :
    Traced (log ++ [call]) := by
  intro earlier other later split
  rcases later.eq_nil_or_concat with rfl | ⟨later, last, rfl⟩
  · obtain ⟨rfl, same⟩ := List.append_inj' split rfl
    cases same
    exact stems
  · rw [List.concat_eq_append, ← List.cons_append, ← List.append_assoc] at split
    obtain ⟨same, _⟩ := List.append_inj' split rfl
    exact traced earlier other later same

theorem append (traced : Traced log) (unhanded : ∀ call ∈ calls, call.given? = none) :
    Traced (log ++ calls) := by
  induction calls generalizing log with
  | nil => simpa using traced
  | cons call rest ih =>
    rw [List.forall_mem_cons] at unhanded
    rw [List.append_cons]
    refine ih (traced.snoc fun node state handed => ?_) unhanded.2
    cases unhanded.1.symm.trans handed

end Traced

theorem Onward.unhanded (onward : Onward calls after) : ∀ call ∈ calls, call.given? = none := by
  induction onward with
  | out | lands =>
    intro call member
    cases member
  | fails | back =>
    rw [List.forall_mem_singleton]
    rfl
  | on node flow moves onward ih =>
    rw [List.forall_mem_cons]
    exact ⟨rfl, ih⟩

theorem Onward.not_begun (onward : Onward calls after) : after ≠ .begun node state := by
  induction onward with
  | on node flow moves onward ih => exact ih
  | _ =>
    intro begun
    cases begun

structure Attributed (forks : Nat → Bool) (log : List (Call σ)) (standing : Standing σ) : Prop where
  traced : Traced log
  stems : ∀ node state, standing = .begun node state → Stems node log state
  inPlace : ∀ node state, standing = .begun node state → forks node = false

namespace Attributed

theorem of_idle (traced : Traced log) (idle : ∀ node state, after ≠ .begun node state) :
    Attributed forks log after where
  traced := traced
  stems node state begun := absurd begun (idle node state)
  inPlace node state begun := absurd begun (idle node state)

theorem of_stems (traced : Traced log) (stems : Stems node log state)
    (inPlace : forks node = false) : Attributed forks log (.begun node state) where
  traced := traced
  stems := by
    rintro _ _ ⟨⟩
    exact stems
  inPlace := by
    rintro _ _ ⟨⟩
    exact inPlace

theorem performed (attributed : Attributed forks log (.begun node state))
    (performed : Performed node state calls after) : Attributed forks (log ++ calls) after := by
  have stems := attributed.stems node state rfl
  have traced (answer : Except Failure (Flow × σ)) : Traced (log ++ [.perform node state answer]) := by
    refine attributed.traced.snoc ?_
    rintro _ _ ⟨⟩
    exact stems
  cases performed with
  | fails failure => exact .of_idle (traced _) fun _ _ begun => nomatch begun
  | rests flow kept rests =>
    exact .of_stems (traced _) (stems.performed flow kept rests) (attributed.inPlace node state rfl)
  | leaves flow kept moves onward =>
    rw [List.append_cons]
    exact .of_idle ((traced _).append onward.unhanded) fun _ _ => onward.not_begun

theorem answered (attributed : Attributed forks log before)
    (answered : Answered forks before prompt calls after) :
    Attributed forks (log ++ calls) after := by
  cases answered with
  | idle | deaf | unseen => simpa using attributed
  | hears node state event answer =>
    have stems := attributed.stems node state rfl
    refine .of_stems (attributed.traced.snoc ?_) (stems.heard event answer)
      (attributed.inPlace node state rfl)
    rintro _ _ ⟨⟩
    exact stems
  | draws node state lines =>
    have stems := attributed.stems node state rfl
    refine .of_stems (attributed.traced.snoc ?_) (stems.drawn lines)
      (attributed.inPlace node state rfl)
    rintro _ _ ⟨⟩
    exact stems
  | forked node stage beside onward =>
    exact .of_idle (attributed.traced.append onward.unhanded) fun _ _ => onward.not_begun
  | refused node stage inPlace failure =>
    refine .of_idle (attributed.traced.snoc ?_) fun _ _ begun => nomatch begun
    rintro _ _ ⟨⟩
  | begins node stage inPlace state performs =>
    rw [List.append_cons]
    refine performed (.of_stems (attributed.traced.snoc ?_) (.begins node log state) inPlace)
      performs
    rintro _ _ ⟨⟩
  | goesOn node stage state performs => exact attributed.performed performs

end Attributed

end Lineage

namespace Run

def standing (run : Run σ) : Standing σ :=
  match run.cursor, run.state with
  | none, _ => .ended
  | some cursor, none => .landed cursor.node
  | some cursor, some state => .begun cursor.node state

def forksAt (language : Language σ) (run : Run σ) (node : Nat) : Bool :=
  (run.tree.item? node).any language.runsBeside && !run.isParallel && !run.moving

variable {language : Language σ} {run : Run σ}

theorem Continues.forksAt_eq {before after : Run σ} (continues : Continues before after) :
    after.forksAt language = before.forksAt language := by
  obtain ⟨_, _, _, rfl⟩ := continues
  rfl

theorem standing_fail (node : Nat) (command : Command) (failure : Failure) (stage : Stage) :
    (run.fail node command failure stage).1.standing = .ended := by
  cases failure <;> rfl

theorem followLogged_rests {cursor : Cursor} {flow : Flow} (entering : cursor.phase = .enter)
    (stage : Stage) (rests : flow.Rests) :
    run.followLogged language cursor flow stage = ([], run, stage) := by
  rcases rests with rfl | rfl <;> simp only [followLogged, entering]

/-- Coming back to a node that stays is landing on it. -/
theorem followLogged_back {cursor : Cursor} {flow : Flow} (back : cursor.phase = .back)
    (stage : Stage) (rests : flow.Rests) :
    run.followLogged language cursor flow stage =
      ([], { run with cursor := some (.enter cursor.node), state := none }, stage) := by
  rcases rests with rfl | rfl <;> simp only [followLogged, back]

theorem followLogged_onward (cursor : Cursor) {flow : Flow} (stage : Stage)
    (moves : ¬ flow.Rests) :
    Onward (run.followLogged language cursor flow stage).1
      (run.followLogged language cursor flow stage).2.1.standing := by
  fun_induction followLogged language run cursor flow stage with
  | case1 | case6 | case8 => exact .out
  | case2 | case3 => exact absurd (.inl rfl) moves
  | case4 | case5 => exact absurd (.inr rfl) moves
  | case7 run cursor stage count next => exact .lands next.node
  | case9 run cursor stage count next jump moved back command carried answer after asked followed ih =>
    by_cases rests : answer.Rests
    · have landed : followed = ([], { moved with cursor := some (.enter next.node) }, after) :=
        followLogged_back back after rests
      rw [landed]
      exact .back next.node answer rests
    · exact .on next.node answer rests (ih rests)
  | case10 run cursor stage count next jump moved back command carried failure after asked =>
    rw [standing_fail]
    exact .fails next.node failure

theorem followLogged_performed (language : Language σ) {cursor : Cursor}
    (located : run.cursor = some cursor)
    (entering : cursor.phase = .enter) (state kept : σ) (flow : Flow) (stage : Stage) :
    Performed cursor.node state
      (.perform cursor.node state (.ok (flow, kept)) ::
        ({ run with state := some kept }.followLogged language cursor flow stage).1)
      ({ run with state := some kept }.followLogged language cursor flow stage).2.1.standing := by
  by_cases rests : flow.Rests
  · have begun : ({ run with state := some kept } : Run σ).standing = .begun cursor.node kept := by
      simp [standing, located]
    rw [followLogged_rests entering stage rests, begun]
    exact .rests flow kept rests
  · exact .leaves flow kept rests (followLogged_onward cursor stage rests)

theorem answered_tick (seated : run.Seated) (stage : Stage)
    (inPlace : ∀ node state, run.standing = .begun node state → run.forksAt language node = false) :
    Answered (run.forksAt language) run.standing (.tick stage) (run.calls language (.tick stage))
      (run.respond language (.tick stage)).standing := by
  rw [calls, respond, ← tickLogged_eq]
  cases located : run.cursor with
  | none =>
    have ends : run.standing = .ended := by simp [standing, located]
    simp only [tickLogged, located, ends]
    exact .idle _
  | some cursor =>
    have entering := seated.entering cursor located
    obtain ⟨command, carried⟩ := Tree.item?_of_inside (seated.inside cursor located)
    have landed (idle : run.state = none) : run.standing = .landed cursor.node := by
      simp [standing, located, idle]
    have begun (state : σ) (held : run.state = some state) :
        run.standing = .begun cursor.node state := by
      simp [standing, located, held]
    have forks : run.forksAt language cursor.node =
        (language.runsBeside command && !run.isParallel && !run.moving) := by
      simp [forksAt, carried]
    cases beside : language.runsBeside command && !run.isParallel && !run.moving with
    | true =>
      rw [beside] at forks
      -- A command that is forked never begins, so the run holds no state to be left behind.
      have idle : run.state = none := by
        cases held : run.state with
        | none => rfl
        | some state =>
          cases forks.symm.trans (inPlace cursor.node state (begun state held))
      rw [tickLogged_beside stage located carried beside, landed idle]
      refine .forked cursor.node stage forks (followLogged_onward cursor _ ?_)
      have onward := run.tree.skipOffset_pos cursor.node
      rintro (rests | rests)
      · cases rests
      · have none := Flow.advance.inj rests
        omega
    | false =>
      rw [beside] at forks
      have turn := tickLogged_turn stage located carried beside
      generalize run.tickLogged language stage = ticked at turn ⊢
      cases turn with
      | refused failure after idle begins =>
        rw [landed idle, standing_fail]
        exact .refused cursor.node stage forks failure
      | failed calls state left failure after ready done =>
        rw [standing_fail]
        cases ready with
        | held _ held =>
          rw [begun state held]
          exact .goesOn cursor.node stage state (.fails failure)
        | fresh _ _ idle begins =>
          rw [landed idle]
          exact .begins cursor.node stage forks state (.fails failure)
      | done calls state left flow kept after ready done =>
        have performed := followLogged_performed language located entering state kept flow after
        cases ready with
        | held _ held =>
          rw [begun state held]
          exact .goesOn cursor.node stage state performed
        | fresh _ _ idle begins =>
          rw [landed idle]
          exact .begins cursor.node stage forks state performed

/-- The command under the cursor is there if it has begun. -/
theorem Seated.command?_of_begun (seated : run.Seated) {node : Nat} {state : σ}
    (begun : run.standing = .begun node state) :
    run.node? = some node ∧ run.state = some state ∧ ∃ command, run.command? = some command := by
  cases located : run.cursor with
  | none => simp [standing, located] at begun
  | some cursor =>
    cases held : run.state with
    | none => simp [standing, located, held] at begun
    | some kept =>
      obtain ⟨rfl, rfl⟩ : cursor.node = node ∧ kept = state := by
        simpa [standing, located, held] using begun
      obtain ⟨command, carried⟩ := Tree.item?_of_inside (seated.inside cursor located)
      exact ⟨by simp [node?, located], rfl, command, by simp [command?, node?, located, carried]⟩

theorem state_of_landed {node : Nat} (landed : run.standing = .landed node) : run.state = none := by
  cases located : run.cursor with
  | none => simp [standing, located] at landed
  | some cursor =>
    cases held : run.state with
    | none => rfl
    | some kept => simp [standing, located, held] at landed

theorem cursor_of_ended (ends : run.standing = .ended) : run.cursor = none := by
  cases located : run.cursor with
  | none => rfl
  | some cursor => cases held : run.state <;> simp [standing, located, held] at ends

theorem listenLogged_silent (event : InputEvent) (silent : run.cursor = none ∨ run.state = none) :
    run.listenLogged language event = ([], run, []) := by
  unfold listenLogged
  split
  · rename_i node command state here named held
    rcases silent with ended | idle
    · simp [node?, ended] at here
    · cases idle.symm.trans held
  · rfl

theorem drawLogged_silent (silent : run.cursor = none ∨ run.state = none) :
    run.drawLogged language = ([], []) := by
  unfold drawLogged
  split
  · rename_i node command state here named held
    rcases silent with ended | idle
    · simp [node?, ended] at here
    · cases idle.symm.trans held
  · rfl

theorem answered_listen (seated : run.Seated) (event : InputEvent) :
    Answered (run.forksAt language) run.standing (.listen event)
      (run.calls language (.listen event)) (run.respond language (.listen event)).standing := by
  rw [calls, respond, ← listenLogged_eq]
  cases stands : run.standing with
  | ended =>
    rw [listenLogged_silent event (.inl (cursor_of_ended stands)), stands]
    exact .idle _
  | landed node =>
    rw [listenLogged_silent event (.inr (state_of_landed stands)), stands]
    exact .deaf node event
  | begun node state =>
    obtain ⟨here, held, command, named⟩ := seated.command?_of_begun stands
    have located := (Option.map_eq_some_iff.mp here)
    obtain ⟨cursor, located, rfl⟩ := located
    have begun (kept : σ) :
        ({ run with state := some kept } : Run σ).standing = .begun cursor.node kept := by
      simp [standing, located]
    simp only [listenLogged, here, held, named, begun]
    exact .hears cursor.node state event _

theorem answered_draw (seated : run.Seated) :
    Answered (run.forksAt language) run.standing .draw (run.calls language .draw)
      (run.respond language .draw).standing := by
  rw [calls, respond]
  cases stands : run.standing with
  | ended =>
    rw [drawLogged_silent (.inl (cursor_of_ended stands))]
    exact .idle _
  | landed node =>
    rw [drawLogged_silent (.inr (state_of_landed stands))]
    exact .unseen node
  | begun node state =>
    obtain ⟨here, held, command, named⟩ := seated.command?_of_begun stands
    simp only [drawLogged, here, held, named]
    exact .draws node state _

theorem Seated.respond (seated : run.Seated) (prompt : Prompt) :
    (run.respond language prompt).Seated := by
  cases prompt with
  | tick stage => exact seated.tick language stage
  | listen event => exact seated.listen language event
  | draw => exact seated

theorem Seated.respondAll (seated : run.Seated) (prompts : List Prompt) :
    (run.respondAll language prompts).Seated := by
  induction prompts generalizing run with
  | nil => exact seated
  | cons prompt rest ih => exact ih (seated.respond prompt)

structure Living (language : Language σ) (run : Run σ) (log : List (Call σ)) : Prop where
  seated : run.Seated
  attributed : Attributed (run.forksAt language) log run.standing

namespace Living

variable {log : List (Call σ)}

theorem answered (living : Living language run log) (prompt : Prompt) :
    Answered (run.forksAt language) run.standing prompt (run.calls language prompt)
      (run.respond language prompt).standing := by
  cases prompt with
  | tick stage => exact answered_tick living.seated stage living.attributed.inPlace
  | listen event => exact answered_listen living.seated event
  | draw => exact answered_draw living.seated

theorem respond (living : Living language run log) (prompt : Prompt) :
    Living language (run.respond language prompt) (log ++ run.calls language prompt) where
  seated := living.seated.respond prompt
  attributed := by
    rw [(respond_continues language run prompt).forksAt_eq]
    exact living.attributed.answered (living.answered prompt)

theorem respondAll (living : Living language run log) (prompts : List Prompt) :
    Living language (run.respondAll language prompts) (log ++ run.log language prompts) := by
  induction prompts generalizing run log with
  | nil =>
    rw [Run.log, List.append_nil]
    exact living
  | cons prompt rest ih =>
    rw [Run.log, ← List.append_assoc]
    exact ih (living.respond prompt)

end Living

def fresh (reaction : Reaction) (trigger : Trigger) (moving holdsPause : Bool) (depth : Nat) :
    Run σ :=
  { Run.start reaction trigger with moving := moving, holdsPause := holdsPause, depth := depth }

theorem living_fresh (language : Language σ) (reaction : Reaction) (trigger : Trigger)
    (moving holdsPause : Bool) (depth : Nat) (prompts : List Prompt) :
    let run := fresh reaction trigger moving holdsPause depth
    Living language (run.respondAll language prompts) (run.log language prompts) := by
  have living : Living language (fresh reaction trigger moving holdsPause depth) [] := by
    refine ⟨.start reaction trigger moving depth holdsPause, .of_idle .nil ?_⟩
    intro node state begun
    cases located : reaction.tree.start? <;> simp [standing, fresh, start, located] at begun
  exact living.respondAll prompts

end Run

end TileScript
