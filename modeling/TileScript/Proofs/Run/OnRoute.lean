import TileScript.Proofs.Run.Performed
import TileScript.Proofs.World.Cast

namespace TileScript

namespace World

/-- The paused objects are still there, on the same tile and looking the same way. -/
def Spares (before after : World) : Prop :=
  ∀ id object, before.object? id = some object → object.isPaused = true →
    ∃ later, after.object? id = some later ∧ later.position = object.position ∧
      later.orientation = object.orientation

namespace Spares

theorem refl (world : World) : Spares world world :=
  fun _ object present _ => ⟨object, present, rfl, rfl⟩

theorem modifyObject {world : World} {id : Nat} {change : MapObject → MapObject}
    (quiet : ∀ object, world.object? id = some object → object.isPaused = true →
      (change object).position = object.position ∧
        (change object).orientation = object.orientation) :
    Spares world (world.modifyObject id change) := by
  intro key object present paused
  rw [object?_modifyObject]
  split
  · rename_i same
    subst same
    exact ⟨change object, by rw [present]; rfl, quiet object present paused⟩
  · exact ⟨object, present, rfl, rfl⟩

theorem removeObject (world : World) (id : Nat) : Spares world (world.removeObject id) := by
  intro key object present _
  rw [object?_removeObject, present]
  split <;> exact ⟨_, rfl, rfl, rfl⟩

end Spares

end World

open World (Spares)

theorem Deed.spares {stage after : Stage} {command : Command} (deed : Deed stage command after)
    (stays : ∀ map position orientation, command ≠ .teleport map position orientation)
    (rests : ∀ object steps waitEnd framesPerStep,
      command ≠ .moveObject object steps waitEnd framesPerStep) :
    Spares stage.world after.world := by
  cases deed with
  | nothing | assign | announce | depart => exact .refl stage.world
  | put map position orientation => exact absurd rfl (stays map position orientation)
  | walk reference steps waitEnd framesPerStep =>
    exact absurd rfl (rests reference steps waitEnd framesPerStep)
  | activate reference state operation id =>
    refine .modifyObject fun object _ _ => ?_
    obtain ⟨states, same⟩ := operation.on_eq state object
    rw [same]
    exact ⟨rfl, rfl⟩
  | remove reference id => exact .removeObject stage.world id

/-- On a movement route a walk does nothing while its object is paused. -/
theorem Walk.tick_spares {steps : List Orientation} {framesPerStep : Nat} {walk walked : Walk}
    {world after : World} {flow : Flow}
    (done : walk.tick true steps framesPerStep world = .ok (flow, walked, after)) :
    Spares world after := by
  rw [tick_moving] at done
  split at done
  · cases done
  · rename_i object present
    split at done
    · cases done
      exact .refl world
    · rename_i free
      rcases (tick_still_ok done).2 with rfl | ⟨_, direction, _, rfl⟩
      · exact .refl after
      · refine .modifyObject fun paused found holds => ?_
        cases present.symm.trans found
        exact absurd holds free

theorem Standard.performLocal_spares {context : Context} {command : Command}
    {activity kept : Activity} {flow : Flow} {stage after : Stage}
    (done : performLocal context command activity stage = .ok (flow, kept, after))
    (moving : context.moving = true)
    (stays : ∀ map position orientation, command ≠ .teleport map position orientation) :
    Spares stage.world after.world := by
  cases command with
  | moveObject object steps waitEnd framesPerStep =>
    cases activity with
    | walking walk =>
      simp only [performLocal, moving] at done
      split at done
      · cases done
      · rename_i walked
        cases done
        exact Walk.tick_spares walked
    | _ => cases done
  | _ => exact (performLocal_deed done).spares stays (by simp)

namespace Run

variable {run called : Run Activity} {levels : Nat} {stage : Stage}

inductive OnRoute : Run Activity → Prop where
  | intro (run : Run Activity) (moving : run.moving = true)
      (inner : ∀ called, run.state = some (.calling called) → OnRoute called) : OnRoute run

namespace OnRoute

theorem moving (onRoute : OnRoute run) : run.moving = true := by
  cases onRoute with
  | intro _ moving => exact moving

theorem inner (onRoute : OnRoute run) (calling : run.state = some (.calling called)) :
    OnRoute called := by
  cases onRoute with
  | intro _ _ inner => exact inner called calling

theorem of_idle (moving : run.moving = true) (idle : run.state = none) : OnRoute run := by
  refine .intro run moving (fun called calling => ?_)
  cases idle.symm.trans calling

theorem resume (onRoute : OnRoute run) {kept : Activity}
    (inner : ∀ called, kept = .calling called → OnRoute called) :
    OnRoute { run with state := some kept } := by
  refine .intro _ onRoute.moving (fun called calling => ?_)
  cases calling
  exact inner called rfl

theorem fail (onRoute : OnRoute run) (node : Nat) (command : Command) (failure : Failure)
    (stage : Stage) : OnRoute (run.fail node command failure stage).1 := by
  cases failure <;> exact of_idle onRoute.moving rfl

theorem follow (onRoute : OnRoute run) (language : Language Activity) (cursor : Cursor)
    (flow : Flow) (stage : Stage) : OnRoute (run.follow language cursor flow stage).1 := by
  rcases run.follow_state language cursor flow stage with same | idle
  · rw [same]
    exact onRoute
  · refine .of_idle ?_ idle
    obtain ⟨place, state, failed, followed⟩ := run.follow_continues language cursor flow stage
    rw [followed]
    exact onRoute.moving

theorem listen (onRoute : OnRoute run) (event : InputEvent) :
    OnRoute (run.listen (.within .inert levels) event).1 := by
  induction levels using Nat.strongRecOn generalizing run with
  | ind levels ih =>
    unfold Run.listen
    split
    · rename_i command activity named begun
      refine onRoute.resume (fun called calling => ?_)
      rcases Intact.listen_calling calling with rfl | ⟨below, inner, level, rfl, rfl⟩
      · exact onRoute.inner begun
      · exact ih below (by omega) (onRoute.inner begun)
    · exact onRoute

/-- A call on a movement route goes on as one. -/
theorem prepare (onRoute : OnRoute run) {node : Nat} {command : Command}
    (ready : run.prepare (.within .inert levels) node command stage =
      (.ok (.calling called), stage)) : OnRoute called := by
  rw [Language.prepare_within] at ready
  have prepared := congrArg Prod.fst ready
  cases begun : run.state with
  | some state =>
    rw [begun] at prepared
    cases prepared
    exact onRoute.inner begun
  | none =>
    rw [begun] at prepared
    simp only [Option.map_none, Option.getD_none] at prepared
    obtain ⟨id, parameters, rfl, calls⟩ := Language.beginning_calling prepared
    obtain ⟨_, reaction, _, _, _, rfl⟩ := Standard.call_ok calls
    exact .of_idle onRoute.moving rfl

theorem tick (onRoute : OnRoute run) (stage : Stage) :
    OnRoute (run.tick (.within .inert levels) stage).1 ∧
      (run.tick (.within .inert levels) stage).2.effects.forks = stage.effects.forks ∧
      ((∀ map position orientation,
          ¬ CarriesOut levels run stage (.teleport map position orientation)) →
        Spares stage.world (run.tick (.within .inert levels) stage).2.world) := by
  have reported (run : Run Activity) (node : Nat) (command : Command) (failure : Failure) :
      (run.fail node command failure stage).2.effects.forks = stage.effects.forks ∧
        (run.fail node command failure stage).2.world = stage.world := by
    rcases stage_of_fail run node command failure stage with ⟨_, _, same⟩ | ⟨_, same⟩ <;>
      rw [same] <;> exact ⟨rfl, rfl⟩
  -- A called run is ticked one level below, so the levels bound how deep the induction goes.
  induction levels using Nat.strongRecOn generalizing run with
  | ind levels ih =>
    have way := tick_way levels run stage
    generalize run.tick (.within .inert levels) stage = ticked at way ⊢
    cases way with
    | ended located => exact ⟨onRoute, rfl, fun _ => .refl stage.world⟩
    | root cursor located bare =>
      rw [(follow_within levels run cursor .next stage).1]
      exact ⟨onRoute.follow _ _ _ _, rfl, fun _ => .refl stage.world⟩
    | fork cursor command located carried beside =>
      rw [onRoute.moving] at beside
      simp at beside
    | refused cursor command failure located carried ready =>
      obtain ⟨forks, still⟩ := reported run cursor.node command failure
      exact ⟨onRoute.fail _ _ _ _, forks, fun _ => still ▸ .refl stage.world⟩
    | failed cursor command activity failure located carried ready done refused =>
      obtain ⟨forks, still⟩ := reported run cursor.node command failure
      exact ⟨onRoute.fail _ _ _ _, forks, fun _ => still ▸ .refl stage.world⟩
    | done cursor command activity kept flow after located carried ready performed =>
      rw [(follow_within levels _ cursor flow after).1]
      refine ⟨(onRoute.resume fun called calling => ?_).follow _ _ _ _,
        (Standard.performLocal_deed performed).forks_eq, fun stays => ?_⟩
      · exact absurd calling (Standard.performLocal_kept called performed)
      · refine Standard.performLocal_spares performed onRoute.moving ?_
        rintro map position orientation rfl
        exact stays map position orientation (.here located carried rfl ready)
    | host cursor kind index count located carried =>
      rw [(follow_within levels _ cursor .next stage).1]
      refine ⟨(onRoute.resume fun other calling => ?_).follow _ _ _ _, rfl,
        fun _ => .refl stage.world⟩
      cases calling
    | calledFailed below cursor id parameters called level located carried ready failed =>
      subst level
      obtain ⟨_, forks, spares⟩ := ih below (by omega) (onRoute.prepare ready)
      refine ⟨onRoute.fail _ _ _ _, forks, fun stays => spares fun map position orientation => ?_⟩
      exact mt (.inside located carried ready) (stays map position orientation)
    | called below cursor id parameters called level located carried ready sound =>
      subst level
      obtain ⟨kept, forks, spares⟩ := ih below (by omega) (onRoute.prepare ready)
      rw [(follow_within _ _ cursor _ _).1]
      refine ⟨(onRoute.resume fun other calling => ?_).follow _ _ _ _, forks,
        fun stays => spares fun map position orientation => ?_⟩
      · cases calling
        exact kept
      · exact mt (.inside located carried ready) (stays map position orientation)

end OnRoute

/-- The runs that a movement route calls are movement routes. -/
theorem Lived.onRoute (lived : Lived levels run) (moving : run.moving = true) : OnRoute run := by
  induction lived with
  | fresh run idle going => exact .of_idle moving idle
  | @tick run lived stage ih =>
    obtain ⟨place, state, failed, same⟩ := run.tick_continues (.within .inert levels) stage
    rw [same] at moving
    exact ((ih moving).tick stage).1
  | @listen run lived event ih =>
    obtain ⟨place, state, failed, same⟩ := run.listen_continues (.within .inert levels) event
    rw [same] at moving
    exact (ih moving).listen event

/-- A tick of a movement route lets no command run beside it, not even a walk that nobody waits for,
and unless it performs a teleport, every paused object stays on its tile and looks the same way. -/
theorem route_spares_paused (lived : Lived levels run) (moving : run.moving = true)
    (stage : Stage) :
    let ticked := run.tick (.within .inert levels) stage
    ticked.2.effects.forks = stage.effects.forks ∧
      ((∀ map position orientation,
          ¬ CarriesOut levels run stage (.teleport map position orientation)) →
        ∀ id object, stage.world.object? id = some object → object.isPaused = true →
          ∃ later, ticked.2.world.object? id = some later ∧ later.position = object.position ∧
            later.orientation = object.orientation) :=
  ((lived.onRoute moving).tick stage).2

def stroll : Reaction :=
  ⟨.common 3, "stroll", .single (.moveObject .this [.right] false 1), false⟩

def gatehouse (held : Nat) : World :=
  World.insertObject { content := some ⟨.ofList [(3, stroll)], ∅, {}⟩ }
    { MapObject.create 1 "sentry" ⟨0, 0⟩ {} with pauseCount := held }

def sentryRun (moving : Bool) : Run Activity :=
  { Run.start ⟨.loose 0, "sentry", .single (.callCommon 3 []), false⟩ { object := some 1 } with
    moving := moving }

theorem paused_sentry_stays :
    let ticked := (sentryRun true).tick .standard ⟨gatehouse 1, {}⟩
    let free := (sentryRun true).tick .standard ⟨gatehouse 0, {}⟩
    let forked := (sentryRun false).tick .standard ⟨gatehouse 1, {}⟩
    ticked.2.effects.forks.length = 0 ∧
      (ticked.2.world.object? 1).map (·.position) = some ⟨0, 0⟩ ∧
      (free.2.world.object? 1).map (·.position) = some ⟨1, 0⟩ ∧
      forked.2.effects.forks.length = 1 := by
  have lived : Lived maxCallDepth (sentryRun true) := .fresh _ rfl rfl
  obtain ⟨forks, spares⟩ := route_spares_paused lived rfl ⟨gatehouse 1, {}⟩
  have stays (map : Nat) (position : Position) (orientation : Option Orientation) :
      ¬ CarriesOut maxCallDepth (sentryRun true) ⟨gatehouse 1, {}⟩
        (.teleport map position orientation) := by
    intro performs
    have teleports := teleports_of_carriesOut performs
    revert teleports
    decide +kernel
  obtain ⟨later, present, same, _⟩ := spares stays 1 _ rfl rfl
  refine ⟨congrArg List.length forks, ?_, by decide +kernel, by decide +kernel⟩
  have found : (((sentryRun true).tick .standard ⟨gatehouse 1, {}⟩).2.world.object? 1) =
      some later := present
  rw [found]
  exact congrArg some same

end Run

end TileScript
