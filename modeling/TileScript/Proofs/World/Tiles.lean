import TileScript.Proofs.Run.Performed
import TileScript.Proofs.Scheduler.Invariants

namespace TileScript

def MapObject.isSolid (object : MapObject) : Bool := !object.removed && !object.model.through

namespace World

def Keyed (world : World) : Prop :=
  ∀ id object, world.object? id = some object → object.id = id

structure Tiled (world : World) : Prop where
  apart : ∀ first second one other, world.object? first = some one →
    world.object? second = some other → one.isSolid = true → other.isSolid = true →
    one.position = other.position → first = second
  inside : ∀ id object, world.object? id = some object → world.inBounds object.position = true

theorem Keyed.of_keeps {before after : World} (keyed : before.Keyed)
    (keeps : Keeps MapObject.id before after) : after.Keyed := by
  intro id object present
  obtain ⟨earlier, found, same⟩ := keeps id object present
  exact same.trans (keyed id earlier found)

theorem mem_values_of_object? {world : World} {id : Nat} {object : MapObject}
    (present : world.object? id = some object) : object ∈ world.objects.values := by
  obtain ⟨entry, found, rfl⟩ := Option.map_eq_some_iff.mp present
  exact List.mem_map_of_mem (List.mem_of_find?_eq_some found)

theorem free_of_isPassable {world : World} {target : Position} {mover id : Nat} {object : MapObject}
    (passable : world.isPassable target mover = true) (present : world.object? id = some object) :
    object.id = mover ∨ object.isSolid = false ∨ object.position ≠ target := by
  simp only [isPassable, Bool.and_eq_true, List.all_eq_true] at passable
  have free := passable.2 object (mem_values_of_object? present)
  simp only [Bool.or_eq_true, beq_iff_eq, bne_iff_ne] at free
  rcases free with ((same | gone) | through) | elsewhere
  · exact .inl same
  · exact .inr (.inl (by simp [MapObject.isSolid, gone]))
  · exact .inr (.inl (by simp [MapObject.isSolid, through]))
  · exact .inr (.inr elsewhere)

structure Still (before after : World) : Prop where
  extent : after.extent = before.extent
  stands : ∀ id object, after.object? id = some object →
    ∃ earlier, before.object? id = some earlier ∧ object.id = earlier.id ∧
      object.position = earlier.position ∧ (object.isSolid = true → earlier.isSolid = true)

namespace Still

theorem of_keeps {before after : World} (extent : after.extent = before.extent)
    (keeps : Keeps (fun object => (object.id, object.position, object.isSolid)) before after) :
    Still before after where
  extent := extent
  stands id object present := by
    obtain ⟨earlier, found, same⟩ := keeps id object present
    simp only [Prod.mk.injEq] at same
    exact ⟨earlier, found, same.1, same.2.1, fun solid => same.2.2 ▸ solid⟩

theorem keepsId {before after : World} (still : Still before after) :
    Keeps MapObject.id before after := by
  intro id object present
  obtain ⟨earlier, found, same, _⟩ := still.stands id object present
  exact ⟨earlier, found, same⟩

theorem refl (world : World) : Still world world := .of_keeps rfl (.refl world)

theorem trans {first second third : World} (one : Still first second)
    (two : Still second third) : Still first third where
  extent := two.extent.trans one.extent
  stands id object present := by
    obtain ⟨middle, known, ids, positions, solid⟩ := two.stands id object present
    obtain ⟨earlier, found, ids', positions', solid'⟩ := one.stands id middle known
    exact ⟨earlier, found, ids.trans ids', positions.trans positions', solid' ∘ solid⟩

theorem modifyObject (world : World) (id : Nat) {change : MapObject → MapObject}
    (quiet : ∀ object, (change object).id = object.id ∧
      (change object).position = object.position ∧ (change object).isSolid = object.isSolid) :
    Still world (world.modifyObject id change) := by
  refine .of_keeps rfl (.modifyObject world id fun object => ?_)
  obtain ⟨ids, positions, solid⟩ := quiet object
  rw [ids, positions, solid]

theorem removeObject (world : World) (id : Nat) : Still world (world.removeObject id) where
  extent := by
    unfold World.removeObject
    split <;> rfl
  stands key object present := by
    rw [object?_removeObject] at present
    split at present
    · obtain ⟨earlier, found, rfl⟩ := Option.map_eq_some_iff.mp present
      exact ⟨earlier, found, rfl, rfl, fun solid => by simp [MapObject.isSolid] at solid⟩
    · exact ⟨object, present, rfl, rfl, fun solid => solid⟩

theorem endFrame (world : World) : Still world world.endFrame :=
  .of_keeps rfl (.endFrame world fun _ => rfl)

end Still

structure Placed (world : World) : Prop where
  keyed : world.Keyed
  tiled : world.Tiled

namespace Placed

variable {world : World}

theorem still (placed : world.Placed) {after : World} (still : Still world after) :
    after.Placed where
  keyed := placed.keyed.of_keeps still.keepsId
  tiled := {
    apart := by
      intro first second one other here there solid solid' meet
      obtain ⟨one', here', _, stood, was⟩ := still.stands first one here
      obtain ⟨other', there', _, stood', was'⟩ := still.stands second other there
      exact placed.tiled.apart first second one' other' here' there' (was solid) (was' solid')
        (stood.symm.trans (meet.trans stood'))
    inside := by
      intro id object present
      obtain ⟨earlier, found, _, stood, _⟩ := still.stands id object present
      rw [inBounds, still.extent, stood]
      exact placed.tiled.inside id earlier found }

/-- A step onto a tile that is passable for the object leads away from all solid ones. -/
theorem step (placed : world.Placed) {id : Nat} {target : Position}
    {change : MapObject → MapObject}
    (quiet : ∀ object, (change object).id = object.id ∧
      (change object).isSolid = object.isSolid)
    (passable : world.isPassable target id = true)
    (moves : ∀ object, (change object).position = target) :
    (world.modifyObject id change).Placed := by
  have inside := inBounds_of_isPassable passable
  -- The other object of a pair that meets has not moved, so it stood on the target all along.
  have clear {key : Nat} {other : MapObject} (apart : key ≠ id)
      (present : world.object? key = some other) (solid : other.isSolid = true) :
      other.position ≠ target := by
    rcases free_of_isPassable passable present with same | hollow | elsewhere
    · exact absurd ((placed.keyed key other present).symm.trans same) apart
    · rw [solid] at hollow
      cases hollow
    · exact elsewhere
  refine ⟨placed.keyed.of_keeps (.modifyObject world id fun object => (quiet object).1), ?_, ?_⟩
  · intro first second one other here there solid solid' meet
    rw [object?_modifyObject] at here there
    split at here <;> split at there
    · rename_i same same'
      exact same.trans same'.symm
    · rename_i _ apart
      obtain ⟨earlier, _, rfl⟩ := Option.map_eq_some_iff.mp here
      exact absurd (meet.symm.trans (moves earlier)) (clear apart there solid')
    · rename_i apart _
      obtain ⟨earlier, _, rfl⟩ := Option.map_eq_some_iff.mp there
      exact absurd (meet.trans (moves earlier)) (clear apart here solid)
    · exact placed.tiled.apart first second one other here there solid solid' meet
  · intro key object present
    rw [object?_modifyObject] at present
    split at present
    · obtain ⟨earlier, _, rfl⟩ := Option.map_eq_some_iff.mp present
      exact moves earlier ▸ inside
    · exact placed.tiled.inside key object present

theorem tryStep (placed : world.Placed) (id : Nat) (target : Position)
    {change : MapObject → MapObject}
    (quiet : ∀ object, (change object).id = object.id ∧ (change object).isSolid = object.isSolid)
    (goes : ∀ object, (change object).position =
      if world.isPassable target id then target else object.position) :
    (world.modifyObject id change).Placed := by
  cases free : world.isPassable target id with
  | true =>
    refine placed.step quiet free fun object => ?_
    rw [goes, free]
    rfl
  | false =>
    refine placed.still (.modifyObject world id fun object => ?_)
    refine ⟨(quiet object).1, ?_, (quiet object).2⟩
    rw [goes, free]
    rfl

theorem deed {stage after : Stage} {command : Command} (placed : stage.world.Placed)
    (deed : Deed stage command after)
    (stays : ∀ map position orientation, command ≠ .teleport map position orientation) :
    after.world.Placed := by
  cases deed with
  | nothing | assign | announce | depart => exact placed.still (.of_keeps rfl (.refl stage.world))
  | put map position orientation => exact absurd rfl (stays map position orientation)
  | walk reference steps waitEnd framesPerStep id object direction =>
    exact placed.tryStep id _ (fun _ => ⟨rfl, rfl⟩) (fun _ => rfl)
  | activate reference state operation id =>
    refine placed.still (.modifyObject stage.world id fun object => ?_)
    obtain ⟨states, same⟩ := operation.on_eq state object
    rw [same]
    exact ⟨rfl, rfl, rfl⟩
  | remove => exact placed.still (.removeObject stage.world _)

end Placed

theorem Keyed.tick {levels : Nat} {run : Run Activity} {stage : Stage}
    (keyed : stage.world.Keyed) : (run.tick (.within .inert levels) stage).2.world.Keyed :=
  keyed.of_keeps (run.tick_keeps ⟨fun _ _ _ => rfl, fun _ _ => rfl, fun _ => rfl⟩ levels stage)

theorem Placed.tick {levels : Nat} {run : Run Activity} {stage : Stage}
    (placed : stage.world.Placed)
    (stays : ∀ map position orientation,
      ¬ Run.CarriesOut levels run stage (.teleport map position orientation)) :
    (run.tick (.within .inert levels) stage).2.world.Placed := by
  have result := run.tick_result levels stage
  generalize (run.tick (.within .inert levels) stage).2 = after at result ⊢
  cases result with
  | nothing | fork | report => exact placed
  | deed command performed deed =>
    refine placed.deed deed ?_
    rintro map position orientation rfl
    exact stays map position orientation (performed rfl)

end World

open World (Still Placed)

theorem Run.tearDown_still {σ : Type} (run : Run σ) (world : World) :
    Still world (run.tearDown world).2 := by
  refine .of_keeps ?_ (run.tearDown_view (fun _ => rfl) world)
  exact congrArg (fun setting => setting.2.1) (run.tearDown_setting world)

theorem Touch.still {change : MapObject → MapObject} (touch : Touch change) (world : World)
    (id : Nat) : Still world (world.modifyObject id change) := by
  refine .modifyObject world id fun object => ?_
  cases touch with
  | mark senderPosition =>
    obtain ⟨orientation, same⟩ := Delivery.mark_eq senderPosition object
    rw [same]
    exact ⟨rfl, rfl, rfl⟩
  | advance | fire => exact ⟨rfl, rfl, rfl⟩

namespace Scheduler

theorem Opens.still {σ : Type} {allowed : World → Reaction → Trigger → Bool → Prop}
    {before after : Scheduler σ × World} (opens : Opens allowed before after) :
    Still before.2 after.2 := by
  induction opens with
  | refl state => exact .refl state.2
  | @start state _ _ reaction trigger moving allows added rest ih =>
    refine Still.trans ?_ ih
    obtain ⟨_, _, _, _, ⟨_, same⟩ | ⟨_, _, id, _, same⟩⟩ := add?_some added
    · rw [same]
      exact .refl state.2
    · rw [same]
      exact .modifyObject state.2 id fun _ => ⟨rfl, rfl, rfl⟩
  | @touch state _ id change touch rest ih => exact (touch.still state.2 id).trans ih

theorem lasting_of_still {holds : World → Prop}
    (still : ∀ before after, Still before after → holds before → holds after) : Lasting holds where
  torn run world := still _ _ (run.tearDown_still world)
  committed scheduler stage := still _ _ (commit_opens scheduler stage).still

end Scheduler

end TileScript
