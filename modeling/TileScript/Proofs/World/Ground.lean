import TileScript.Proofs.World.Cast

namespace TileScript

open World (Keeps SameCast)

structure World.SameGround (before after : World) : Prop extends SameCast before after where
  stands : ∀ id object, after.object? id = some object →
    ∃ earlier, before.object? id = some earlier ∧
      (object.position = earlier.position ∨ before.inBounds object.position = true)

theorem World.SameCast.inBounds_eq {before after : World} (same : SameCast before after)
    (position : Position) : after.inBounds position = before.inBounds position := by
  have extent : after.extent = before.extent := congrArg (fun setting => setting.2.1) same.setting
  rw [World.inBounds, extent, World.inBounds]

theorem World.inBounds_of_isPassable {world : World} {position : Position} {mover : Nat}
    (passable : world.isPassable position mover = true) : world.inBounds position = true := by
  simp only [World.isPassable, Bool.and_eq_true] at passable
  exact passable.1

namespace World.SameGround

theorem of_keeps {before after : World} (setting : after.setting = before.setting)
    (keeps : Keeps (fun object => (object.model, object.position)) before after) :
    SameGround before after where
  setting := setting
  models := keeps.map Prod.fst
  stands id object present := by
    obtain ⟨earlier, found, same⟩ := keeps id object present
    exact ⟨earlier, found, .inl (congrArg Prod.snd same)⟩

theorem refl (world : World) : SameGround world world := .of_keeps rfl (.refl world)

theorem trans {first second third : World} (one : SameGround first second)
    (two : SameGround second third) : SameGround first third where
  toSameCast := one.toSameCast.trans two.toSameCast
  stands id object present := by
    obtain ⟨middle, known, after⟩ := two.stands id object present
    obtain ⟨earlier, found, before⟩ := one.stands id middle known
    refine ⟨earlier, found, ?_⟩
    rw [one.inBounds_eq] at after
    rcases after with same | within
    · rw [same]
      exact before
    · exact .inr within

/-- Changing an object moves it onto a tile of the map or not at all. -/
theorem step (world : World) (id : Nat) {change : MapObject → MapObject}
    (quiet : ∀ object, (change object).model = object.model)
    (steps : ∀ object, (change object).position = object.position ∨
      world.inBounds (change object).position = true) :
    SameGround world (world.modifyObject id change) where
  toSameCast := .modifyObject world id quiet
  stands key object present := by
    rw [object?_modifyObject] at present
    split at present
    · obtain ⟨earlier, found, rfl⟩ := Option.map_eq_some_iff.mp present
      exact ⟨earlier, found, steps earlier⟩
    · exact ⟨object, present, .inl rfl⟩

theorem modifyObject (world : World) (id : Nat) {change : MapObject → MapObject}
    (quiet : ∀ object, (change object).model = object.model)
    (still : ∀ object, (change object).position = object.position) :
    SameGround world (world.modifyObject id change) :=
  .step world id quiet (fun object => .inl (still object))

theorem endFrame (world : World) : SameGround world world.endFrame :=
  .of_keeps rfl (.endFrame world (fun _ => rfl))

theorem stepObject (world : World) (id : Nat) (object : MapObject) (direction : Orientation) :
    SameGround world (Walk.stepObject world id object direction) := by
  refine .step world id (fun _ => rfl) (fun other => ?_)
  dsimp only
  split
  · rename_i free
    exact .inr (World.inBounds_of_isPassable free)
  · exact .inl rfl

end World.SameGround

open World (SameGround)

theorem Run.tearDown_sameGround {σ : Type} (run : Run σ) (world : World) :
    SameGround world (run.tearDown world).2 :=
  .of_keeps (run.tearDown_setting world) (run.tearDown_keeps world)

theorem Touch.sameGround {change : MapObject → MapObject} (touch : Touch change) (world : World)
    (id : Nat) : SameGround world (world.modifyObject id change) :=
  .modifyObject world id (fun object => (touch.quiet object).2.1)
    (fun object => (touch.quiet object).2.2.2)

theorem MapScene.moveHero_sameGround (cooldown : Nat) (input : InputSnapshot) (world : World) :
    SameGround world (moveHero cooldown input world).2 := by
  rcases moveHero_cases cooldown input world with same | ⟨id, target, direction, same⟩
  · rw [same]
    exact .refl world
  · rw [same]
    refine .step world _ (fun _ => rfl) (fun hero => ?_)
    dsimp only
    split
    · rename_i passable
      exact .inr (World.inBounds_of_isPassable passable)
    · exact .inl rfl

/-- Only a teleport puts an object on a tile that may be off the map: the hero on its own map. -/
theorem Deed.sameGround {stage after : Stage} {command : Command} (deed : Deed stage command after) :
    SameGround stage.world after.world ∨ ∃ map position orientation,
      command = .teleport map position orientation ∧ stage.world.map = some map ∧
        ∀ id object, after.world.object? id = some object →
          stage.world.object? id = some object ∨
            id = stage.world.heroOrDefault ∧ object.position = position := by
  have cast := deed.sameCast
  cases deed with
  | nothing | assign | announce | depart => exact .inl (.of_keeps cast.setting (.refl stage.world))
  | put map position orientation here =>
    refine .inr ⟨map, position, orientation, rfl, here, ?_⟩
    intro id object present
    rw [World.object?_modifyObject] at present
    split at present
    · rename_i hero
      obtain ⟨_, _, rfl⟩ := Option.map_eq_some_iff.mp present
      exact .inr ⟨hero, rfl⟩
    · exact .inl present
  | walk => exact .inl (.stepObject stage.world _ _ _)
  | activate reference state operation id =>
    refine .inl (.of_keeps rfl (.modifyObject stage.world id (fun object => ?_)))
    obtain ⟨states, same⟩ := operation.on_eq state object
    rw [same]
  | remove => exact .inl (.of_keeps cast.setting (.removeObject stage.world _ (fun _ => rfl)))

end TileScript
