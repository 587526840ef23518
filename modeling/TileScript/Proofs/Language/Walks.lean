import TileScript.Proofs.Language.Deeds
import TileScript.Proofs.Tree.Growth
import TileScript.Proofs.World.Objects

namespace TileScript

structure Update (σ : Type) where
  given : σ
  answer : Except Failure (Flow × σ)
  stage : Stage

def Language.updates {σ : Type} (language : Language σ) (context : Context) (command : Command) :
    σ → List Stage → List (Update σ)
  | _, [] => []
  | given, stage :: rest =>
    let performed := language.perform context command given stage
    ⟨given, performed.1, performed.2⟩ ::
      match performed.1 with
      | .ok (_, kept) => language.updates context command kept rest
      | .error _ => []

/-- The object looks in the direction, and has gone one tile that way if the tile was passable. -/
structure World.Stepped (id : Nat) (direction : Orientation) (before after : World) : Prop where
  object : ∃ object, before.object? id = some object ∧
    after.object? id = some { object with
      orientation := direction
      position :=
        if before.isPassable (object.position.step direction) id then
          object.position.step direction
        else object.position }
  others : ∀ key, key ≠ id → after.object? key = before.object? key
  rest : { after with objects := before.objects } = before

namespace Walk

def heldUp (moving : Bool) (id : Nat) (world : World) : Bool :=
  moving && (world.object? id).any MapObject.isPaused

def duration (steps : List Orientation) (framesPerStep : Nat) : Nat :=
  max 1 (steps.length * max 1 framesPerStep)

structure Spent (framesPerStep count : Nat) (walk : Walk) : Prop where
  spent : count + walk.cooldown = walk.nextStep * max 1 framesPerStep
  resting : walk.cooldown < max 1 framesPerStep

variable {steps : List Orientation} {framesPerStep count : Nat} {walk : Walk} {world : World}

theorem spent_fresh (framesPerStep id : Nat) : (fresh id).Spent framesPerStep 0 where
  spent := (Nat.zero_mul _).symm
  resting := Nat.lt_of_lt_of_le Nat.one_pos (Nat.le_max_left _ _)

theorem stepObject_stepped {id : Nat} {object : MapObject} (direction : Orientation)
    (present : world.object? id = some object) :
    world.Stepped id direction (stepObject world id object direction) where
  object := by
    refine ⟨object, present, ?_⟩
    rw [stepObject, World.object?_modifyObject, present]
    simp
  others := by
    intro key other
    rw [stepObject, World.object?_modifyObject]
    simp [other]
  rest := rfl

/-- Between two steps nothing is due, and the last rest ends with the walk. -/
theorem Spent.rests (spent : walk.Spent framesPerStep count) (waits : 0 < walk.cooldown)
    (within : count < duration steps framesPerStep) :
    (walk.cooldown - 1 = 0 ∧ walk.nextStep = steps.length ↔
        count + 1 = duration steps framesPerStep) ∧
      ∀ step, count ≠ step * max 1 framesPerStep := by
  obtain ⟨spent, resting⟩ := spent
  have begun : 0 < walk.nextStep := by
    apply Nat.pos_of_ne_zero
    intro none
    rw [none] at spent
    omega
  have apart : ∀ step, count ≠ step * max 1 framesPerStep := by
    intro step same
    have multiple : max 1 framesPerStep ∣ walk.cooldown := by
      rw [← Nat.dvd_add_right (Nat.dvd_mul_left _ step), ← same, spent]
      exact Nat.dvd_mul_left _ _
    have := Nat.le_of_dvd waits multiple
    omega
  have long : 0 < steps.length := by
    apply Nat.pos_of_ne_zero
    intro none
    have first : count = 0 := by
      rw [duration, none, Nat.zero_mul] at within
      omega
    exact apart 0 (first.trans (Nat.zero_mul _).symm)
  have whole : duration steps framesPerStep = steps.length * max 1 framesPerStep :=
    Nat.max_eq_right (Nat.mul_pos long (by omega))
  rw [whole] at within ⊢
  have close : walk.nextStep ≤ steps.length := by
    apply Nat.le_of_lt_succ
    apply Nat.lt_of_mul_lt_mul_right (a := max 1 framesPerStep)
    rw [Nat.succ_mul]
    omega
  refine ⟨⟨?_, fun ends => ?_⟩, apart⟩
  · rintro ⟨elapsed, last⟩
    rw [← last]
    omega
  · have last : walk.nextStep = steps.length := by
      apply Nat.le_antisymm close
      apply Nat.le_of_mul_le_mul_right (c := max 1 framesPerStep) _ (by omega)
      omega
    rw [last] at spent
    exact ⟨by omega, last⟩

structure Due (steps : List Orientation) (framesPerStep count id : Nat) (before after : World) :
    Prop where
  step : ∀ index direction, steps[index]? = some direction →
    count = index * max 1 framesPerStep → before.Stepped id direction after
  rest : (∀ index < steps.length, count ≠ index * max 1 framesPerStep) → after = before

theorem Spent.tick (spent : walk.Spent framesPerStep count)
    (within : count < duration steps framesPerStep) {object : MapObject}
    (present : world.object? walk.object = some object) :
    ∃ kept after, walk.tick false steps framesPerStep world =
        .ok (if count + 1 = duration steps framesPerStep then .next else .stay, kept, after) ∧
      kept.object = walk.object ∧
      (count + 1 < duration steps framesPerStep → kept.Spent framesPerStep (count + 1)) ∧
      Due steps framesPerStep count walk.object world after := by
  have long : 0 < max 1 framesPerStep := by omega
  simp only [Walk.tick, Bool.false_eq_true, ↓reduceIte]
  by_cases waits : 0 < walk.cooldown
  · obtain ⟨ends, apart⟩ := spent.rests waits within
    obtain ⟨spent, resting⟩ := spent
    refine ⟨{ walk with cooldown := walk.cooldown - 1 }, world, ?_, rfl, ?_, ?_⟩
    · simp only [waits, ends, ↓reduceIte]
    · intro onward
      exact ⟨by simp only; omega, by simp only; omega⟩
    · exact ⟨fun index _ _ same => absurd same (apart index), fun _ => rfl⟩
  · obtain ⟨spent, resting⟩ := spent
    have now : count = walk.nextStep * max 1 framesPerStep := by omega
    simp only [waits, ↓reduceIte]
    cases next : steps[walk.nextStep]? with
    | none =>
      have beyond := List.getElem?_eq_none_iff.mp next
      have late := Nat.mul_le_mul_right (max 1 framesPerStep) beyond
      have ends : count + 1 = duration steps framesPerStep := by
        rw [duration] at within ⊢
        omega
      refine ⟨walk, world, by simp [ends], rfl, fun onward => by omega, ?_, fun _ => rfl⟩
      intro index direction listed same
      have inside := (List.getElem?_eq_some_iff.mp listed).1
      have first : 1 ≤ steps.length * max 1 framesPerStep :=
        Nat.mul_pos (Nat.zero_lt_of_lt inside) long
      rw [duration] at within
      omega
    | some direction =>
      have inside := (List.getElem?_eq_some_iff.mp next).1
      have whole : duration steps framesPerStep = steps.length * max 1 framesPerStep :=
        Nat.max_eq_right (Nat.mul_pos (Nat.zero_lt_of_lt inside) long)
      have after : (walk.nextStep + 1) * max 1 framesPerStep =
          walk.nextStep * max 1 framesPerStep + max 1 framesPerStep := Nat.succ_mul _ _
      have ends : walk.nextStep + 1 = steps.length ∧ max 1 framesPerStep - 1 = 0 ↔
          count + 1 = duration steps framesPerStep := by
        rw [whole]
        constructor
        · rintro ⟨last, short⟩
          rw [← last]
          omega
        · intro due
          have close := Nat.mul_le_mul_right (max 1 framesPerStep) (Nat.succ_le_of_lt inside)
          rw [Nat.succ_mul] at close
          have single : max 1 framesPerStep = 1 := by omega
          rw [single] at due now
          omega
      refine ⟨⟨walk.object, walk.nextStep + 1, max 1 framesPerStep - 1⟩,
        stepObject world walk.object object direction, by simp only [present, ends], rfl, ?_, ?_, ?_⟩
      · intro onward
        exact ⟨by simp only; omega, by simp only; omega⟩
      · intro index turned listed same
        have here : index = walk.nextStep := by
          apply Nat.eq_of_mul_eq_mul_right long
          omega
        subst here
        cases next.symm.trans listed
        exact stepObject_stepped direction present
      · intro apart
        exact absurd now (apart walk.nextStep inside)

end Walk

namespace Language

variable {extension : Extension} {levels : Nat} {context : Context} {reference : ObjectRef}
  {steps : List Orientation} {waitEnd : Bool} {framesPerStep count : Nat}

open Walk (heldUp duration Spent Due)

theorem perform_walk (walk : Walk) (stage : Stage) :
    (within extension levels).perform context (.moveObject reference steps waitEnd framesPerStep)
        (.walking walk) stage =
      match walk.tick context.moving steps framesPerStep stage.world with
      | .error failure => (.error failure, stage)
      | .ok (flow, walked, world) =>
        (.ok (flow, .walking walked), { stage with world := world }) := by
  cases levels <;> simp only [within, level, Standard.performLocal] <;>
    rcases walk.tick context.moving steps framesPerStep stage.world with failure | ⟨_, _, _⟩ <;> rfl

structure OnSchedule (moving : Bool) (steps : List Orientation) (framesPerStep id count : Nat)
    (stage : Stage) (update : Update Activity) : Prop where
  held : heldUp moving id stage.world = true →
    update.answer = .ok (.stay, update.given) ∧ update.stage = stage
  answer : heldUp moving id stage.world = false → ∃ kept, update.answer =
    .ok (if count + 1 = duration steps framesPerStep then .next else .stay, kept)
  world : heldUp moving id stage.world = false →
    Due steps framesPerStep count id stage.world update.stage.world
  effects : update.stage.effects = stage.effects

theorem updates_walk {walk : Walk} (spent : walk.Spent framesPerStep count) {stages : List Stage}
    (present : ∀ stage ∈ stages, ∃ object, stage.world.object? walk.object = some object)
    {index : Nat} {stage : Stage} (here : stages[index]? = some stage)
    (within : count + (stages.take index).countP
      (fun earlier => !heldUp context.moving walk.object earlier.world) <
        duration steps framesPerStep) :
    ∃ update, ((Language.within extension levels).updates context
        (.moveObject reference steps waitEnd framesPerStep) (.walking walk) stages)[index]? =
          some update ∧
      OnSchedule context.moving steps framesPerStep walk.object
        (count + (stages.take index).countP
          (fun earlier => !heldUp context.moving walk.object earlier.world)) stage update := by
  induction stages generalizing walk count index with
  | nil => cases here
  | cons first rest ih =>
    obtain ⟨object, found⟩ := present first List.mem_cons_self
    have later : ∀ stage ∈ rest, ∃ object, stage.world.object? walk.object = some object :=
      fun stage member => present stage (List.mem_cons_of_mem first member)
    rw [updates, perform_walk]
    cases stops : heldUp context.moving walk.object first.world with
    | true =>
      have frozen : walk.tick context.moving steps framesPerStep first.world =
          .ok (.stay, walk, first.world) := by
        simp only [heldUp, Bool.and_eq_true, found, Option.any_some] at stops
        rw [stops.1, Walk.tick_moving, found]
        simp only [stops.2, ↓reduceIte]
      rw [frozen]
      cases index with
      | zero =>
        cases here
        refine ⟨_, rfl, ⟨fun _ => ⟨rfl, rfl⟩, fun free => ?_, fun free => ?_, rfl⟩⟩
        · cases stops.symm.trans free
        · cases stops.symm.trans free
      | succ index =>
        simp only [List.take_succ_cons, List.countP_cons, stops, Bool.not_true, Bool.false_eq_true,
          ↓reduceIte, Nat.add_zero] at within ⊢
        exact ih spent later here within
    | false =>
      have free : walk.tick context.moving steps framesPerStep first.world =
          walk.tick false steps framesPerStep first.world := by
        cases moves : context.moving with
        | false => rfl
        | true =>
          simp only [heldUp, moves, Bool.true_and, found, Option.any_some] at stops
          rw [Walk.tick_moving, found]
          simp only [stops, Bool.false_eq_true, ↓reduceIte]
      have started : count < duration steps framesPerStep := Nat.lt_of_le_of_lt (by omega) within
      obtain ⟨kept, after, ticked, same, onward, due⟩ := spent.tick started found
      rw [free, ticked]
      cases index with
      | zero =>
        cases here
        refine ⟨_, rfl, ⟨fun held => ?_, fun _ => ⟨_, rfl⟩, fun _ => due, rfl⟩⟩
        cases stops.symm.trans held
      | succ index =>
        have shift : count + ((first :: rest).take (index + 1)).countP
              (fun earlier => !heldUp context.moving walk.object earlier.world) =
            count + 1 + (rest.take index).countP
              (fun earlier => !heldUp context.moving walk.object earlier.world) := by
          simp only [List.take_succ_cons, List.countP_cons, stops, Bool.not_false, ↓reduceIte]
          omega
        rw [shift] at within ⊢
        rw [← same] at within later ⊢
        exact ih (onward (by omega)) later here within

/--
A walk takes its steps one by one, each at the time it is due, and goes on when the time of the last
one is over, whatever happens to the world in between.
-/
theorem walk_keeps_schedule (extension : Extension) (levels : Nat) (context : Context)
    (reference : ObjectRef) (steps : List Orientation) (waitEnd : Bool) (framesPerStep : Nat)
    {start : Stage} {id : Nat} {object : MapObject}
    (referred : context.referred start.world
      (Command.moveObject reference steps waitEnd framesPerStep).kind reference = .ok (id, object))
    {stages : List Stage}
    (present : ∀ stage ∈ stages, ∃ object, stage.world.object? id = some object) :
    let language := within extension levels
    let command := Command.moveObject reference steps waitEnd framesPerStep
    language.begin context command start = (.ok (.walking (Walk.fresh id)), start) ∧
      ∀ index stage, stages[index]? = some stage →
        let count := (stages.take index).countP
          (fun earlier => !heldUp context.moving id earlier.world)
        count < duration steps framesPerStep →
          ∃ update, (language.updates context command (.walking (Walk.fresh id)) stages)[index]? =
              some update ∧
            OnSchedule context.moving steps framesPerStep id count stage update := by
  intro language command
  constructor
  · cases levels <;>
      simp only [language, command, within, level, Standard.begin, referred]
  · intro index stage here count within
    have spent := Walk.spent_fresh framesPerStep id
    have shift : 0 + count = count := Nat.zero_add count
    rw [← shift] at within ⊢
    exact updates_walk spent present here within

def stroll (reference : ObjectRef) : Command := .moveObject reference [.right, .down] true 2

def strolling (holds : Nat) : Stage :=
  ⟨World.insertObject {} { MapObject.create 1 "stroller" ⟨0, 0⟩ {} with pauseCount := holds }, {}⟩

def strollContext : Context := ⟨.single (stroll .this), 1, { object := some 1 }, true, 0⟩

theorem stroll_waits_for_reaction :
    let stages := [strolling 0, strolling 1, strolling 0, strolling 0]
    let updates := (within .inert 0).updates strollContext (stroll .this)
      (.walking (Walk.fresh 1)) stages
    (∃ update, updates[3]? = some update ∧
      OnSchedule true [.right, .down] 2 1 2 (strolling 0) update) ∧
    updates.map (fun update => (update.stage.world.object? 1).map (·.position)) =
      [some ⟨1, 0⟩, some ⟨0, 0⟩, some ⟨0, 0⟩, some ⟨0, 1⟩] := by
  intro stages updates
  have present : ∀ stage ∈ stages, ∃ object, stage.world.object? 1 = some object := by
    intro stage member
    simp only [stages, List.mem_cons, List.not_mem_nil, or_false] at member
    rcases member with rfl | rfl | rfl | rfl <;> exact ⟨_, rfl⟩
  have referred : strollContext.referred (strolling 0).world (stroll .this).kind .this =
      .ok (1, { MapObject.create 1 "stroller" ⟨0, 0⟩ {} with pauseCount := 0 }) := rfl
  obtain ⟨_, kept⟩ :=
    walk_keeps_schedule .inert 0 strollContext .this [.right, .down] true 2 referred present
  exact ⟨kept 3 (strolling 0) rfl (by decide), by decide⟩

end Language

end TileScript
