import TileScript.Proofs.Run.Ways
import TileScript.Proofs.Scheduler.Passes

namespace TileScript

open World (Keeps)

theorem StateOperation.on_eq (operation : StateOperation) (state : Nat) (object : MapObject) :
    ∃ states, operation.on state object = { object with states := states } := by
  cases operation with
  | replace | remove => exact ⟨_, rfl⟩
  | add =>
    unfold StateOperation.on MapObject.addState
    dsimp only
    split
    · exact ⟨object.states, rfl⟩
    · exact ⟨_, rfl⟩

structure MapObject.Fixed {α : Type} (view : MapObject → α) : Prop where
  moved : ∀ object position orientation,
    view { object with position := position, orientation := orientation } = view object
  active : ∀ object states, view { object with states := states } = view object
  removed : ∀ object, view { object with removed := true } = view object

theorem Deed.keeps_view {α : Type} {view : MapObject → α} (fixed : MapObject.Fixed view)
    {stage after : Stage} {command : Command} (deed : Deed stage command after) :
    Keeps view stage.world after.world := by
  cases deed with
  | nothing | assign | announce | depart => exact .refl stage.world
  | put => exact .modifyObject stage.world _ (fun object => fixed.moved object _ _)
  | walk => exact .modifyObject stage.world _ (fun object => fixed.moved object _ _)
  | activate reference state operation id =>
    refine .modifyObject stage.world id (fun object => ?_)
    obtain ⟨states, same⟩ := operation.on_eq state object
    rw [same]
    exact fixed.active object states
  | remove => exact .removeObject stage.world _ fixed.removed

/-- A deed neither holds an object nor recasts it. -/
theorem Deed.keeps {stage after : Stage} {command : Command} (deed : Deed stage command after) :
    Keeps (fun object => (object.pauseCount, object.model)) stage.world after.world :=
  deed.keeps_view ⟨fun _ _ _ => rfl, fun _ _ => rfl, fun _ => rfl⟩

def World.setting (world : World) : Option Nat × Option Extent × Option Nat × Option Database :=
  (world.map, world.extent, world.hero, world.content)

theorem Deed.setting_eq {stage after : Stage} {command : Command}
    (deed : Deed stage command after) :
    after.world.setting = stage.world.setting := by
  cases deed with
  | remove =>
    unfold World.removeObject
    split <;> rfl
  | _ => rfl

structure World.SameCast (before after : World) : Prop where
  setting : after.setting = before.setting
  models : Keeps MapObject.model before after

namespace World.SameCast

theorem refl (world : World) : SameCast world world := ⟨rfl, .refl world⟩

theorem trans {first second third : World} (one : SameCast first second)
    (two : SameCast second third) : SameCast first third :=
  ⟨two.setting.trans one.setting, one.models.trans two.models⟩

theorem modifyObject (world : World) (id : Nat) {change : MapObject → MapObject}
    (quiet : ∀ object, (change object).model = object.model) :
    SameCast world (world.modifyObject id change) :=
  ⟨rfl, .modifyObject world id quiet⟩

end World.SameCast

open World (SameCast)

theorem Deed.sameCast {stage after : Stage} {command : Command}
    (deed : Deed stage command after) :
    SameCast stage.world after.world :=
  ⟨deed.setting_eq, deed.keeps.map Prod.snd⟩

namespace Run

variable {σ : Type}

theorem tick_sameCast (levels : Nat) (run : Run Activity) (stage : Stage) :
    SameCast stage.world (run.tick (.within .inert levels) stage).2.world := by
  have outcome := tick_outcome levels run stage
  generalize (run.tick (.within .inert levels) stage).2 = after at outcome ⊢
  cases outcome with
  | deed deed => exact deed.sameCast
  | fork | report => exact .refl stage.world

theorem tick_keeps {α : Type} {view : MapObject → α} (fixed : MapObject.Fixed view) (levels : Nat)
    (run : Run Activity) (stage : Stage) :
    Keeps view stage.world (run.tick (.within .inert levels) stage).2.world := by
  have outcome := tick_outcome levels run stage
  generalize (run.tick (.within .inert levels) stage).2 = after at outcome ⊢
  cases outcome with
  | deed deed => exact deed.keeps_view fixed
  | fork | report => exact .refl stage.world

theorem tearDown_view {α : Type} {view : MapObject → α}
    (quiet : ∀ object, view object.release = view object) (run : Run σ) (world : World) :
    Keeps view world (run.tearDown world).2 := by
  unfold tearDown
  split
  · exact .refl world
  · split
    · split
      · exact .modifyObject world _ quiet
      · exact .refl world
    · exact .refl world

theorem tearDown_keeps (run : Run σ) (world : World) :
    Keeps (fun object => (object.model, object.position)) world (run.tearDown world).2 :=
  run.tearDown_view (fun _ => rfl) world

theorem tearDown_setting (run : Run σ) (world : World) :
    (run.tearDown world).2.setting = world.setting := by
  unfold tearDown
  split
  · rfl
  · split
    · split <;> rfl
    · rfl

end Run

namespace Scheduler

variable {σ : Type}

theorem close_view {α : Type} {view : MapObject → α}
    (quiet : ∀ object, view object.release = view object) (scheduler : Scheduler σ)
    (world : World) : Keeps view world (scheduler.close world).2 := by
  have all (runs : List (Run σ)) (world : World) :
      Keeps view world (runs.foldl (fun world run => (run.forceFinish world).2) world) := by
    induction runs generalizing world with
    | nil => exact .refl world
    | cons run rest ih => exact (run.stop.tearDown_view quiet world).trans (ih _)
  exact all scheduler.runs world

end Scheduler

namespace MapScene

/-- What holds of the objects of a world, and of fresh ones, holds once a map is set up in it. -/
theorem load_holds {holds : Nat → MapObject → Prop} (scene : MapScene) {world : World}
    (before : ∀ id object, world.object? id = some object → holds id object)
    (fresh : ∀ object, object.clocks = object.model.clocks → holds object.id object) :
    ∀ id object, (scene.load world).object? id = some object → holds id object := by
  have insert {middle : World}
      (known : ∀ id object, middle.object? id = some object → holds id object) {added : MapObject}
      (wound : added.clocks = added.model.clocks) : ∀ id object,
      (middle.insertObject added).object? id = some object → holds id object := by
    intro id object present
    rw [World.object?_insertObject] at present
    split at present
    · rename_i same
      cases present
      rw [same]
      exact fresh added wound
    · exact known id object present
  have insertAll (placed : List PlacedObject) {middle : World}
      (known : ∀ id object, middle.object? id = some object → holds id object) : ∀ id object,
      ((placed.map place).foldl World.insertObject middle).object? id = some object →
        holds id object := by
    induction placed generalizing middle with
    | nil => exact known
    | cons first rest ih => exact ih (insert known rfl)
  intro id object present
  unfold load at present
  split at present
  · exact before id object present
  · rename_i content map _
    have sized : ∀ id object, ({ world with map := some map.id, extent := some map.extent } :
        World).object? id = some object → holds id object := before
    exact insert (insertAll map.objects sized) rfl id object present

theorem moveHero_cases (cooldown : Nat) (input : InputSnapshot) (world : World) :
    (moveHero cooldown input world).2 = world ∨ ∃ id target direction,
      (moveHero cooldown input world).2 = world.modifyObject id (fun hero =>
        { hero with
          orientation := if hero.directionFix then hero.orientation else direction
          position := if world.isPassable target id then target else hero.position }) := by
  unfold moveHero
  split
  · exact .inl rfl
  · split
    · split
      · exact .inl rfl
      · exact .inr ⟨_, _, _, rfl⟩
    · exact .inl rfl

theorem moveHero_view {α : Type} {view : MapObject → α}
    (moved : ∀ object position orientation,
      view { object with position := position, orientation := orientation } = view object)
    (cooldown : Nat) (input : InputSnapshot) (world : World) :
    Keeps view world (moveHero cooldown input world).2 := by
  rcases moveHero_cases cooldown input world with same | ⟨id, target, direction, same⟩
  · rw [same]
    exact .refl world
  · rw [same]
    exact .modifyObject world id (fun hero => moved hero _ _)

end MapScene

end TileScript
