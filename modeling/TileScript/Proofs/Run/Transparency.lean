import TileScript.Proofs.Run.Seats

namespace TileScript

namespace Tree

variable {α : Type} (item : α)

theorem item?_single : (single item).item? 1 = some item := rfl

theorem start?_single : (single item).start? = some (.enter 1) := rfl

theorem advance?_single : (single item).advance? (.enter 1) 1 = none := rfl

end Tree

inductive Moment where
  | tick
  | listen (event : InputEvent)
  | change (alter : Stage → Stage)

def Moment.opening? (stage : Stage) : List Moment → Option Stage
  | [] => none
  | .tick :: _ => some stage
  | .listen _ :: rest => opening? stage rest
  | .change alter :: rest => opening? (alter stage) rest

namespace Run

def meet {σ : Type} (language : Language σ) (run : Run σ) (stage : Stage) :
    Moment → Run σ × Stage
  | .tick => run.tick language stage
  | .listen event =>
    let heard := run.listen language event
    (heard.1, { stage with
      effects := { stage.effects with notes := stage.effects.notes ++ heard.2 } })
  | .change alter => (run, alter stage)

def play {σ : Type} (language : Language σ) (run : Run σ) (stage : Stage) :
    List Moment → Run σ × Stage
  | [] => (run, stage)
  | moment :: rest =>
    let met := run.meet language stage moment
    met.1.play language met.2 rest

def nested (reaction : Reaction) (trigger : Trigger) (moving : Bool) (depth : Nat) :
    Run Activity :=
  { Run.start reaction trigger with moving := moving, depth := depth }

variable {extension : Extension} {levels id : Nat} {parameters : List Operand}
  {outer inner : Run Activity} {stage : Stage}

structure AtCall (id : Nat) (parameters : List Operand) (outer : Run Activity) : Prop where
  single : outer.tree = .single (.callCommon id parameters)
  located : outer.cursor = some (.enter 1)
  going : outer.failed = false

/-- The one run is in the middle of a call that is the other run, or both have ended alike. -/
inductive Carries (id : Nat) (parameters : List Operand) : Run Activity → Run Activity → Prop where
  | within {outer inner : Run Activity} (atCall : AtCall id parameters outer)
      (calling : outer.state = some (.calling inner)) (seated : inner.Seated)
      (live : inner.isFinished = false) : Carries id parameters outer inner
  | ended {outer inner : Run Activity} (outerEnded : outer.cursor = none)
      (innerEnded : inner.cursor = none) (same : outer.failed = inner.failed) :
      Carries id parameters outer inner

theorem AtCall.command?_eq (atCall : AtCall id parameters outer) :
    outer.command? = some (.callCommon id parameters) := by
  simp [command?, node?, atCall.located, atCall.single, Cursor.enter, Tree.item?_single]

theorem listen_ended {σ : Type} {language : Language σ} {run : Run σ} (ended : run.cursor = none)
    (event : InputEvent) : run.listen language event = (run, []) := by
  simp [listen, command?, node?, ended]

theorem draw_ended {σ : Type} {language : Language σ} {run : Run σ} (ended : run.cursor = none) :
    run.draw language = [] := by
  simp [draw, command?, node?, ended]

theorem follow_stay {σ : Type} (language : Language σ) (run : Run σ) (node : Nat) (stage : Stage) :
    run.follow language (.enter node) .stay stage = (run, stage) := by
  rw [follow]
  rfl

theorem AtCall.follow_next (atCall : AtCall id parameters outer) (language : Language Activity)
    (stage : Stage) : outer.follow language (.enter 1) .next stage = (outer.stop, stage) := by
  have out : outer.tree.advance? (.enter 1) 1 = none := by
    rw [atCall.single]
    exact Tree.advance?_single _
  exact follow_out language outer stage out

/-- One tick of a call does what one tick of the called run does. -/
theorem tick_call (atCall : AtCall id parameters outer) (seated : inner.Seated)
    (ready : outer.prepare (.within extension (levels + 1)) 1 (.callCommon id parameters) stage =
      (.ok (.calling inner), stage)) :
    (outer.tick (.within extension (levels + 1)) stage).2 =
        (inner.tick (.within extension levels) stage).2 ∧
      Carries id parameters (outer.tick (.within extension (levels + 1)) stage).1
        (inner.tick (.within extension levels) stage).1 := by
  have carried : outer.tree.item? (Cursor.enter 1).node = some (.callCommon id parameters) := by
    rw [atCall.single]
    exact Tree.item?_single _
  have after := seated.tick (.within extension levels) stage
  have performed : (Language.within extension (levels + 1)).perform (outer.context 1)
      (.callCommon id parameters) (.calling inner) stage = _ :=
    Language.perform_call levels (outer.context 1) id parameters inner stage
  generalize inner.tick (.within extension levels) stage = ticked at after performed ⊢
  dsimp only at performed
  -- A call is never forked, so what the called run does is all that this tick does.
  have inPlace : ((Language.within extension (levels + 1)).runsBeside (.callCommon id parameters) &&
      !outer.isParallel && !outer.moving) = false := rfl
  rcases tick_inPlace stage atCall.located carried inPlace with
    ⟨failure, begun, refused, _⟩ | ⟨state, begun, failure, left, begins, done, stopped⟩ |
    ⟨state, begun, flow, kept, left, begins, done, moved⟩
  · cases refused.symm.trans ready
  · cases begins.symm.trans ready
    have fails := performed.symm.trans done
    split at fails
    · rename_i failed
      cases fails
      rw [stopped]
      exact ⟨rfl, .ended rfl (after.stopped failed) failed.symm⟩
    · cases fails
  · cases begins.symm.trans ready
    have goes := performed.symm.trans done
    split at goes
    · cases goes
    · rename_i sound
      cases goes
      rw [moved]
      have held : AtCall id parameters { outer with state := some (.calling ticked.1) } :=
        ⟨atCall.single, atCall.located, atCall.going⟩
      cases finished : ticked.1.isFinished with
      | true =>
        have ends : ticked.1.cursor = none := Option.isNone_iff_eq_none.mp finished
        rw [if_pos rfl, held.follow_next]
        exact ⟨rfl, .ended rfl ends (atCall.going.trans (Bool.not_eq_true _ ▸ sound).symm)⟩
      | false =>
        rw [if_neg Bool.false_ne_true, follow_stay]
        exact ⟨rfl, .within held rfl after finished⟩

theorem Carries.meet (extension : Extension) (levels : Nat)
    (carries : Carries id parameters outer inner) (stage : Stage) (moment : Moment) :
    (outer.meet (.within extension (levels + 1)) stage moment).2 =
        (inner.meet (.within extension levels) stage moment).2 ∧
      Carries id parameters (outer.meet (.within extension (levels + 1)) stage moment).1
        (inner.meet (.within extension levels) stage moment).1 := by
  cases carries with
  | within atCall calling seated live =>
    cases moment with
    | tick => exact tick_call atCall seated (by simp [prepare, calling])
    | listen event =>
      have heard : outer.listen (.within extension (levels + 1)) event =
          ({ outer with
              state := some (.calling (inner.listen (.within extension levels) event).1) },
            (inner.listen (.within extension levels) event).2) := by
        simp only [listen, atCall.command?_eq, calling]
        rfl
      have still : (inner.listen (.within extension levels) event).1.isFinished = false := by
        unfold listen
        split <;> exact live
      simp only [Run.meet, heard, true_and]
      exact .within ⟨atCall.single, atCall.located, atCall.going⟩ rfl (seated.listen _ event) still
    | change alter => exact ⟨rfl, .within atCall calling seated live⟩
  | ended outerEnded innerEnded same =>
    cases moment with
    | tick =>
      simp only [Run.meet, tick_ended stage outerEnded, tick_ended stage innerEnded, true_and]
      exact .ended outerEnded innerEnded same
    | listen event =>
      simp only [Run.meet, listen_ended outerEnded, listen_ended innerEnded, true_and]
      exact .ended outerEnded innerEnded same
    | change alter => exact ⟨rfl, .ended outerEnded innerEnded same⟩

theorem Carries.play (extension : Extension) (levels : Nat)
    (carries : Carries id parameters outer inner) (stage : Stage) (moments : List Moment) :
    (outer.play (.within extension (levels + 1)) stage moments).2 =
        (inner.play (.within extension levels) stage moments).2 ∧
      Carries id parameters (outer.play (.within extension (levels + 1)) stage moments).1
        (inner.play (.within extension levels) stage moments).1 := by
  induction moments generalizing outer inner stage with
  | nil => exact ⟨rfl, carries⟩
  | cons moment rest ih =>
    obtain ⟨same, met⟩ := carries.meet extension levels stage moment
    have later := ih met (inner.meet (.within extension levels) stage moment).2
    simp only [Run.play, same]
    exact later

theorem Carries.looks (carries : Carries id parameters outer inner) :
    outer.draw (.within extension (levels + 1)) = inner.draw (.within extension levels) ∧
      outer.isFinished = inner.isFinished ∧ outer.failed = inner.failed := by
  cases carries with
  | within atCall calling seated live =>
    refine ⟨?_, ?_, atCall.going.trans (seated.not_failed_of_live live).symm⟩
    · simp only [draw, atCall.command?_eq, calling]
      rfl
    · rw [live, isFinished, atCall.located]
      rfl
  | ended outerEnded innerEnded same =>
    exact ⟨(draw_ended outerEnded).trans (draw_ended innerEnded).symm,
      by rw [isFinished, isFinished, outerEnded, innerEnded], same⟩

theorem prepare_call {common : Reaction} {values : List Value} (idle : outer.state = none)
    (shallow : outer.depth < maxCallDepth) (shared : stage.world.common? id = some common)
    (resolved : (outer.context 1).resolveAll stage.world parameters = .ok values) :
    outer.prepare (.within extension levels) 1 (.callCommon id parameters) stage =
      (.ok (.calling (nested common { outer.trigger with parameters := values } outer.moving
        (outer.depth + 1))), stage) := by
  have begins : (Language.within extension levels).begin (outer.context 1)
      (.callCommon id parameters) stage =
        (Standard.begin (outer.context 1) (.callCommon id parameters) stage.world, stage) := by
    cases levels <;> rfl
  have within : ¬ maxCallDepth < outer.depth + 1 := by omega
  simp only [prepare, idle, begins, Standard.begin, Standard.call]
  simp only [context] at resolved ⊢
  simp [within, shared, resolved, nested]

/-- Until the first tick neither of the runs has begun. -/
theorem play_call (atCall : AtCall id parameters outer) (idle : outer.state = none)
    (unbegun : inner.state = none) (seated : inner.Seated) (live : inner.isFinished = false)
    (moments : List Moment)
    (opens : ∀ first, Moment.opening? stage moments = some first →
      outer.prepare (.within extension (levels + 1)) 1 (.callCommon id parameters) first =
        (.ok (.calling inner), first)) :
    let calling := outer.play (.within extension (levels + 1)) stage moments
    let direct := inner.play (.within extension levels) stage moments
    calling.2 = direct.2 ∧
      calling.1.draw (.within extension (levels + 1)) = direct.1.draw (.within extension levels) ∧
      calling.1.isFinished = direct.1.isFinished ∧ calling.1.failed = direct.1.failed := by
  have silent {language : Language Activity} {run : Run Activity} (event : InputEvent)
      (fresh : run.state = none) : run.listen language event = (run, []) := by
    rw [listen, fresh]
    cases run.command? <;> rfl
  induction moments generalizing stage with
  | nil =>
    refine ⟨rfl, ?_, ?_, atCall.going.trans (seated.not_failed_of_live live).symm⟩
    · simp [play, draw, idle, unbegun]
    · rw [play, play, live, isFinished, atCall.located]
      rfl
  | cons moment rest ih =>
    cases moment with
    | tick =>
      obtain ⟨same, carries⟩ := tick_call atCall seated (opens stage rfl)
      obtain ⟨equal, carries⟩ :=
        carries.play extension levels (inner.tick (.within extension levels) stage).2 rest
      simp only [play, meet, same]
      exact ⟨equal, carries.looks⟩
    | listen event =>
      simp only [play, meet, silent event idle, silent event unbegun, List.append_nil]
      exact ih opens
    | change alter => exact ih opens

/--
A run of nothing but a call and a run of the called reaction itself, one level deeper and with the
parameters resolved, leave the same stage and show and report the same after whatever happens.
-/
theorem call_transparent (extension : Extension) (caller common : Reaction) (trigger : Trigger)
    (moving : Bool) (depth : Nat) {id : Nat} {parameters : List Operand} {values : List Value}
    (single : caller.tree = .single (.callCommon id parameters))
    (nonempty : common.isEmpty = false) (shallow : depth < maxCallDepth) (stage : Stage)
    (moments : List Moment)
    (opens : ∀ first, Moment.opening? stage moments = some first →
      first.world.common? id = some common ∧
        (⟨caller.tree, 1, trigger, moving, depth⟩ : Context).resolveAll first.world parameters =
          .ok values) :
    let calling :=
      (nested caller trigger moving depth).play (.atDepth extension depth) stage moments
    let direct := (nested common { trigger with parameters := values } moving (depth + 1)).play
      (.atDepth extension (depth + 1)) stage moments
    calling.2 = direct.2 ∧
      calling.1.draw (.atDepth extension depth) = direct.1.draw (.atDepth extension (depth + 1)) ∧
      calling.1.isFinished = direct.1.isFinished ∧ calling.1.failed = direct.1.failed := by
  obtain ⟨levels, here, below⟩ : ∃ levels, maxCallDepth - depth = levels + 1 ∧
      maxCallDepth - (depth + 1) = levels := ⟨maxCallDepth - (depth + 1), by omega, rfl⟩
  have atCall : AtCall id parameters (nested caller trigger moving depth) :=
    ⟨single, (congrArg Tree.start? single).trans (Tree.start?_single _), rfl⟩
  rw [Language.atDepth, Language.atDepth, here, below]
  refine play_call atCall rfl rfl (.start common _ moving (depth + 1) false)
    (Reaction.begins nonempty) moments ?_
  intro first opening
  obtain ⟨shared, resolved⟩ := opens first opening
  exact prepare_call rfl shallow shared resolved

def greeting : Reaction := ⟨.common 3, "greeting", .single (.showText none "Hello!"), false⟩

def greetingStage : Stage := ⟨{ content := some ⟨.ofList [(3, greeting)], ∅, {}⟩ }, {}⟩

/-- A call of the greeting, confirmed by the player in the second tick. -/
theorem greeting_transparent :
    let moments :=
      [.tick, .listen (.keyPressed .action), .change fun stage => ⟨stage.world, {}⟩, .tick]
    let calling := (nested ⟨.loose 0, "caller", .single (.callCommon 3 []), false⟩ {} true 7).play
      (.atDepth .inert 7) greetingStage moments
    let direct := (nested greeting {} true 8).play (.atDepth .inert 8) greetingStage moments
    calling.1.isFinished = true ∧ direct.1.isFinished = true ∧ calling.2 = direct.2 := by
  have opens (first : Stage) (opening : some greetingStage = some first) :
      first.world.common? 3 = some greeting ∧
        (⟨.single (.callCommon 3 []), 1, {}, true, 7⟩ : Context).resolveAll first.world [] =
          .ok [] := by
    cases opening
    exact ⟨rfl, rfl⟩
  obtain ⟨same, _, finished, _⟩ := call_transparent .inert
    ⟨.loose 0, "caller", .single (.callCommon 3 []), false⟩ greeting {} true 7 rfl rfl (by decide)
    greetingStage
    [.tick, .listen (.keyPressed .action), .change fun stage => ⟨stage.world, {}⟩, .tick] opens
  have done : ((nested greeting {} true 8).play (.atDepth .inert 8) greetingStage
      [.tick, .listen (.keyPressed .action), .change fun stage => ⟨stage.world, {}⟩,
        .tick]).1.isFinished = true := by
    decide +kernel
  exact ⟨finished.trans done, done, same⟩

end Run

end TileScript
