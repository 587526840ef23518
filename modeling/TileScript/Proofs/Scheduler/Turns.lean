import TileScript.Proofs.Run.Failing
import TileScript.Proofs.Scheduler.Starts

namespace TileScript

def Run.reported {σ : Type} (language : Language σ) (turn : Run σ × Stage) : List Diagnostic :=
  (turn.1.tick language turn.2).2.effects.diagnostics.drop turn.2.effects.diagnostics.length

theorem Run.tick_diagnostics (levels : Nat) (run : Run Activity) (stage : Stage) :
    (run.tick (.within .inert levels) stage).2.effects.diagnostics =
      stage.effects.diagnostics ++ Run.reported (.within .inert levels) (run, stage) := by
  have grows : ∃ more, (run.tick (.within .inert levels) stage).2.effects.diagnostics =
      stage.effects.diagnostics ++ more := by
    have outcome := tick_outcome levels run stage
    generalize (run.tick (.within .inert levels) stage).2 = after at outcome ⊢
    cases outcome with
    | deed deed => exact ⟨[], by simp [deed.diagnostics_eq]⟩
    | fork fork => exact ⟨[], by simp [Effects.fork]⟩
    | report diagnostic => exact ⟨[diagnostic], rfl⟩
  obtain ⟨more, grown⟩ := grows
  simp [reported, grown]

namespace Scheduler

variable {σ : Type} {language : Language σ} {goes : Run σ × Stage → Bool}

def ends (language : Language σ) (turn : Run σ × Stage) : Bool :=
  (turn.1.tick language turn.2).1.isFinished

def moves (language : Language σ) (turn : Run σ × Stage) : Bool :=
  (turn.1.tick language turn.2).1.node? != turn.1.node?

/-- The stage a turn leaves: a run that goes gives back its hold right after its own tick. -/
def leftBy (language : Language σ) (goes : Run σ × Stage → Bool) (turn : Run σ × Stage) : Stage :=
  let ticked := turn.1.tick language turn.2
  if goes turn then { ticked.2 with world := (ticked.1.tearDown ticked.2.world).2 } else ticked.2

def survivors (language : Language σ) (goes : Run σ × Stage → Bool) (turns : List (Run σ × Stage)) :
    List (Run σ) :=
  (turns.filter (fun turn => !goes turn)).map (fun turn => (turn.1.tick language turn.2).1)

inductive Successive (language : Language σ) (goes : Run σ × Stage → Bool) :
    Stage → List (Run σ × Stage) → Stage → Prop where
  | done (stage : Stage) : Successive language goes stage [] stage
  | turn {stage last : Stage} {turns : List (Run σ × Stage)} (run : Run σ)
      (rest : Successive language goes (leftBy language goes (run, stage)) turns last) :
      Successive language goes stage ((run, stage) :: turns) last

/-- The turns of the reactions: one each in order, up to the first that leaves a request for another
map. -/
structure BlockingPass (language : Language σ) (runs : List (Run σ)) (first : Stage)
    (turns : List (Run σ × Stage)) (last : Stage) : Prop where
  successive : Successive language (ends language) first turns last
  inOrder : turns.map Prod.fst = runs.take turns.length
  unasked : ∀ turn ∈ turns.dropLast, (leftBy language (ends language) turn).effects.scene = none
  cut : turns.length < runs.length → last.effects.scene ≠ none

structure ParallelPass (language : Language σ) (runs : List (Run σ)) (first : Stage)
    (turns : List (Run σ × Stage)) (last : Stage) : Prop where
  successive : Successive language (moves language) first turns last
  inOrder : turns.map Prod.fst = runs

def blockingTurns (language : Language σ) : List (Run σ) → Stage → List (Run σ × Stage)
  | [], _ => []
  | run :: rest, stage =>
    let after := (passBlocking language [run] stage).2
    (run, stage) :: if after.effects.scene.isSome then [] else blockingTurns language rest after

def parallelTurns (language : Language σ) : List (Run σ) → Stage → List (Run σ × Stage)
  | [], _ => []
  | run :: rest, stage =>
    (run, stage) :: parallelTurns language rest (passParallel language [run] stage).2

def turns (language : Language σ) (scheduler : Scheduler σ) (world : World) :
    List (Run σ × Stage) :=
  let begun := { scheduler with blocksHero := scheduler.blocking.any (·.reaction.blocksHero) }
  let blocked := passBlocking language begun.blocking ⟨world, {}⟩
  let first := blockingTurns language begun.blocking ⟨world, {}⟩
  match blocked.2.effects.scene with
  | some _ => first
  | none =>
    let committed := { begun with blocking := blocked.1 }.commit blocked.2
    first ++ parallelTurns language committed.1.parallel ⟨committed.2, {}⟩

theorem survivors_cons (run : Run σ) (stage : Stage) (turns : List (Run σ × Stage)) :
    survivors language goes ((run, stage) :: turns) =
      (if goes (run, stage) then [] else [(run.tick language stage).1]) ++
        survivors language goes turns := by
  cases going : goes (run, stage) <;> simp [survivors, going]

theorem passBlocking_turn (language : Language σ) (run : Run σ) (rest : List (Run σ))
    (stage : Stage) :
    passBlocking language (run :: rest) stage =
      let left := leftBy language (ends language) (run, stage)
      let kept := if ends language (run, stage) then [] else [(run.tick language stage).1]
      if left.effects.scene.isSome then (kept ++ rest, left)
      else
        let others := passBlocking language rest left
        (kept ++ others.1, others.2) :=
  rfl

theorem passBlocking_left (language : Language σ) (run : Run σ) (stage : Stage) :
    (passBlocking language [run] stage).2 = leftBy language (ends language) (run, stage) := by
  rw [passBlocking_turn]
  dsimp only
  split <;> rfl

theorem passParallel_turn (language : Language σ) (run : Run σ) (rest : List (Run σ))
    (stage : Stage) :
    passParallel language (run :: rest) stage =
      let others := passParallel language rest (leftBy language (moves language) (run, stage))
      (if moves language (run, stage) then others.1 else (run.tick language stage).1 :: others.1,
        others.2) :=
  rfl

theorem passParallel_left (language : Language σ) (run : Run σ) (stage : Stage) :
    (passParallel language [run] stage).2 = leftBy language (moves language) (run, stage) :=
  rfl

theorem passBlocking_passes (language : Language σ) (runs : List (Run σ)) (stage : Stage) :
    let turns := blockingTurns language runs stage
    BlockingPass language runs stage turns (passBlocking language runs stage).2 ∧
      (passBlocking language runs stage).1 =
        survivors language (ends language) turns ++ runs.drop turns.length := by
  induction runs generalizing stage with
  | nil =>
    refine ⟨⟨.done stage, rfl, ?_, ?_⟩, rfl⟩
    · intro turn member
      cases member
    · intro short
      cases short
  | cons run rest ih =>
    rw [passBlocking_turn, blockingTurns, passBlocking_left]
    dsimp only
    cases asked : (leftBy language (ends language) (run, stage)).effects.scene with
    | some request =>
      refine ⟨⟨.turn run (.done _), rfl, ?_, ?_⟩, ?_⟩
      · intro turn member
        cases member
      · intro _
        simp [asked]
      · simp only [Option.isSome_some, ↓reduceIte, survivors_cons]
        simp [survivors]
    | none =>
      obtain ⟨pass, kept⟩ := ih (leftBy language (ends language) (run, stage))
      refine ⟨⟨.turn run pass.successive, ?_, ?_, ?_⟩, ?_⟩
      · simp [pass.inOrder]
      · intro turn member
        cases later : blockingTurns language rest (leftBy language (ends language) (run, stage)) with
        | nil => simp [later] at member
        | cons next others =>
          have unasked := pass.unasked
          rw [later] at unasked
          simp only [later, Option.isSome_none, Bool.false_eq_true, ↓reduceIte] at member
          rcases List.mem_cons.mp member with rfl | member
          · exact asked
          · exact unasked turn member
      · intro short
        exact pass.cut (by simpa using short)
      · simp [survivors_cons, kept]

theorem passParallel_passes (language : Language σ) (runs : List (Run σ)) (stage : Stage) :
    let turns := parallelTurns language runs stage
    ParallelPass language runs stage turns (passParallel language runs stage).2 ∧
      (passParallel language runs stage).1 = survivors language (moves language) turns := by
  induction runs generalizing stage with
  | nil => exact ⟨⟨.done stage, rfl⟩, rfl⟩
  | cons run rest ih =>
    obtain ⟨pass, kept⟩ := ih (leftBy language (moves language) (run, stage))
    rw [parallelTurns, passParallel_left]
    refine ⟨⟨.turn run pass.successive, ?_⟩, ?_⟩
    · rw [List.map_cons, pass.inOrder]
    · rw [passParallel_turn, survivors_cons, ← kept]
      cases moves language (run, stage) <;> rfl

theorem leftBy_effects (language : Language σ) (goes : Run σ × Stage → Bool)
    (turn : Run σ × Stage) :
    (leftBy language goes turn).effects = (turn.1.tick language turn.2).2.effects := by
  unfold leftBy
  dsimp only
  split <;> rfl

theorem Successive.diagnostics_eq {levels : Nat} {goes : Run Activity × Stage → Bool}
    {first last : Stage} {turns : List (Run Activity × Stage)}
    (successive : Successive (.within .inert levels) goes first turns last) :
    last.effects.diagnostics =
      first.effects.diagnostics ++ turns.flatMap (Run.reported (.within .inert levels)) := by
  induction successive with
  | done stage => exact (List.append_nil _).symm
  | turn run rest ih =>
    rw [ih, leftBy_effects, Run.tick_diagnostics, List.flatMap_cons, List.append_assoc]

theorem Opens.diagnostics_eq {allowed : World → Reaction → Trigger → Bool → Prop}
    {before after : Scheduler σ × World} (opens : Opens allowed before after) :
    after.1.diagnostics = before.1.diagnostics := by
  induction opens with
  | refl state => rfl
  | start reaction trigger moving allows added rest ih =>
    obtain ⟨_, _, held, started, _⟩ := add?_some added
    rw [ih, started]
  | touch id change touch rest ih => exact ih

theorem commit_diagnostics (scheduler : Scheduler σ) (stage : Stage) :
    (scheduler.commit stage).1.diagnostics =
      scheduler.diagnostics ++ stage.effects.diagnostics :=
  (commit_opens scheduler stage).diagnostics_eq

/-- A scheduler keeps everything its runs record, in the order of their turns. -/
theorem update_diagnostics (levels : Nat) (scheduler : Scheduler Activity) (world : World) :
    (scheduler.update (.within .inert levels) world).2.1.diagnostics =
      scheduler.diagnostics ++ (scheduler.turns (.within .inert levels) world).flatMap
        (Run.reported (.within .inert levels)) := by
  obtain ⟨pass, _⟩ := passBlocking_passes (.within .inert levels) scheduler.blocking ⟨world, {}⟩
  have blocked := pass.successive.diagnostics_eq
  unfold update turns
  dsimp only
  generalize passBlocking (.within .inert levels) scheduler.blocking ⟨world, {}⟩ = passed
    at blocked ⊢
  cases passed.2.effects.scene with
  | some request =>
    dsimp only [collect]
    rw [blocked]
    rfl
  | none =>
    dsimp only
    rw [commit_diagnostics, commit_diagnostics, blocked,
      (passParallel_passes _ _ _).1.successive.diagnostics_eq]
    simp

end Scheduler

end TileScript
