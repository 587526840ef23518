import TileScript.Proofs.World.Tiles

namespace TileScript

open Scheduler (Opens)
open World (Still Placed)

namespace MapScene

/-- Every world that a scene sets up keeps its objects under their ids. -/
theorem load_keyed (scene : MapScene) {world : World} (keyed : world.Keyed) :
    (scene.load world).Keyed :=
  scene.load_holds keyed (fun _ _ => rfl)

theorem moveHero_keyed (cooldown : Nat) (input : InputSnapshot) {world : World}
    (keyed : world.Keyed) : (moveHero cooldown input world).2.Keyed := by
  rcases moveHero_cases cooldown input world with same | ⟨id, target, direction, same⟩
  · rw [same]
    exact keyed
  · rw [same]
    exact keyed.of_keeps (.modifyObject world _ fun _ => rfl)

theorem moveHero_placed (cooldown : Nat) (input : InputSnapshot) {world : World}
    (placed : world.Placed) : (moveHero cooldown input world).2.Placed := by
  rcases moveHero_cases cooldown input world with same | ⟨id, target, direction, same⟩
  · rw [same]
    exact placed
  · rw [same]
    exact placed.tryStep _ _ (fun _ => ⟨rfl, rfl⟩) (fun _ => rfl)

theorem update_keyed (scene : MapScene) (input : InputSnapshot) {world : World}
    (keyed : world.Keyed) : (scene.update input world).2.2.Keyed := by
  have still (before after : World) (still : Still before after) (keyed : before.Keyed) :
      after.Keyed := keyed.of_keeps still.keepsId
  refine scene.update_lasting (Scheduler.lasting_of_still still) input world
    (fun _ _ keyed => keyed.tick) (fun cooldown _ keyed => moveHero_keyed cooldown input keyed)
    (fun world => still _ _ (.endFrame world)) ?_
  exact still _ _ (scene.opened_opens world).still keyed

theorem listen_keyed (scene : MapScene) (event : InputEvent) {world : World}
    (keyed : world.Keyed) : (scene.listen event world).2.Keyed := by
  unfold listen
  dsimp only
  split
  · exact keyed.of_keeps (heroAction_opens _ world).still.keepsId
  · exact keyed

/-- If solid objects stand on tiles of their own and all objects on the map, it is so again after a
tick in which no teleport is performed, by whatever run at whatever depth. -/
theorem tiles_stay_exclusive (scene : MapScene) (input : InputSnapshot) (world : World)
    (keyed : world.Keyed)
    (stay : ∀ turn ∈ (scene.opened world).1.turns .standard (scene.opened world).2,
      ∀ map position orientation,
        ¬ Run.CarriesOut maxCallDepth turn.1 turn.2 (.teleport map position orientation))
    (tiled : world.Tiled) : (scene.update input world).2.2.Tiled := by
  have still (before after : World) (still : Still before after) (placed : before.Placed) :
      after.Placed := placed.still still
  have placed : (scene.update input world).2.2.Placed := by
    refine scene.update_lasting (Scheduler.lasting_of_still still) input world
      (fun turn member placed => placed.tick (stay turn member))
      (fun cooldown _ placed => moveHero_placed cooldown input placed)
      (fun world => still _ _ (.endFrame world)) ?_
    exact still _ _ (scene.opened_opens world).still ⟨keyed, tiled⟩
  exact placed.tiled

end MapScene

def corridor : World :=
  { World.insertObject (World.insertObject { extent := some ⟨3, 1⟩ }
      (MapObject.create 1 "guard" ⟨0, 0⟩ {})) (MapObject.create heroId "hero" ⟨2, 0⟩ {}) with
    hero := some heroId }

theorem object?_corridor {id : Nat} {object : MapObject}
    (present : corridor.object? id = some object) :
    id = heroId ∧ object = MapObject.create heroId "hero" ⟨2, 0⟩ {} ∨
      id = 1 ∧ object = MapObject.create 1 "guard" ⟨0, 0⟩ {} := by
  have held : ((World.insertObject { extent := some ⟨3, 1⟩ } (MapObject.create 1 "guard" ⟨0, 0⟩
      {})).insertObject (MapObject.create heroId "hero" ⟨2, 0⟩ {})).object? id = some object :=
    present
  rw [World.object?_insertObject, World.object?_insertObject] at held
  split at held
  · cases held
    exact .inl ⟨‹_›, rfl⟩
  · split at held
    · cases held
      exact .inr ⟨‹_›, rfl⟩
    · cases held

def patrolled : MapScene where
  map := 1
  scheduler := { blocking := [Run.start
    ⟨.loose 0, "patrol", .single (.moveObject (.object 1) [.right, .right] true 1), false⟩ {}] }

theorem guard_stops_hero :
    let updated := patrolled.update { keys := (KeyTable.constant false).set .left true } corridor
    (updated.2.2.object? 1).map (·.position) = some ⟨1, 0⟩ ∧
      (updated.2.2.object? heroId).map (·.position) = some ⟨2, 0⟩ ∧ updated.2.2.Tiled := by
  refine ⟨by decide +kernel, by decide +kernel, ?_⟩
  refine MapScene.tiles_stay_exclusive patrolled _ corridor ?_ ?_ ⟨?_, ?_⟩
  · intro id object present
    obtain ⟨rfl, rfl⟩ | ⟨rfl, rfl⟩ := object?_corridor present <;> rfl
  · have none : ((patrolled.opened corridor).1.turns .standard (patrolled.opened corridor).2).all
        (fun turn => !turn.1.teleports maxCallDepth turn.2) = true := by decide +kernel
    intro turn member map position orientation performs
    have silent := List.all_eq_true.mp none turn member
    rw [Run.teleports_of_carriesOut performs] at silent
    cases silent
  · intro first second one other here there _ _ meet
    obtain ⟨rfl, rfl⟩ | ⟨rfl, rfl⟩ := object?_corridor here <;>
      obtain ⟨rfl, rfl⟩ | ⟨rfl, rfl⟩ := object?_corridor there
    · rfl
    · cases meet
    · cases meet
    · rfl
  · intro id object present
    obtain ⟨rfl, rfl⟩ | ⟨rfl, rfl⟩ := object?_corridor present <;> rfl

end TileScript
