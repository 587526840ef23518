import TileScript.Proofs.Scheduler.Invariants
import TileScript.Proofs.Scheduler.Pauses
import TileScript.Proofs.Tree.Growth

namespace TileScript

inductive Operation where
  | add (reaction : Reaction) (trigger : Trigger) (moving : Bool)
  | receive (delivery : Delivery)
  | send (request : EventRequest)
  | tick
  | listen (event : InputEvent)
  | close
  | updateScene (input : InputSnapshot)
  | listenScene (event : InputEvent)
  | removeObject (id : Nat)
  | endFrame

namespace Operation

def apply (operation : Operation) (scene : MapScene) (world : World) : MapScene × World :=
  let onScheduler (result : Scheduler Activity × World) : MapScene × World :=
    ({ scene with scheduler := result.1 }, result.2)
  match operation with
  | .add reaction trigger moving =>
    onScheduler ((scene.scheduler.add? world reaction trigger moving).getD (scene.scheduler, world))
  | .receive delivery => onScheduler (scene.scheduler.receive world delivery).2
  | .send request => onScheduler (scene.scheduler.send world request).2
  | .tick => onScheduler (scene.scheduler.update .standard world).2
  | .listen event => onScheduler (scene.scheduler.listen .standard event, world)
  | .close => onScheduler (scene.scheduler.close world)
  | .updateScene input => (scene.update input world).2
  | .listenScene event => scene.listen event world
  | .removeObject id => (scene, world.removeObject id)
  | .endFrame => (scene, world.endFrame)

def moments (operation : Operation) (scene : MapScene) (world : World) :
    List (Scheduler Activity) :=
  match operation with
  | .updateScene _ => [(scene.opened world).1, (operation.apply scene world).1.scheduler]
  | _ => [(operation.apply scene world).1.scheduler]

end Operation

inductive InPlay : MapScene → World → Prop where
  | loaded (scene : MapScene) (world : World) (idle : scene.scheduler.runs = [])
      (free : ∀ id object, world.object? id = some object → object.pauseCount = 0) :
      InPlay scene world
  | next {scene : MapScene} {world : World} (inPlay : InPlay scene world) (operation : Operation)
      (few : ∀ moment ∈ operation.moments scene world, moment.runs.length ≤ counterLimit) :
      InPlay (operation.apply scene world).1 (operation.apply scene world).2

open Scheduler (Accounted Opens)
open World (KeepsPauses)

theorem Scheduler.blocking_le {scheduler : Scheduler Activity}
    (few : scheduler.runs.length ≤ counterLimit) : scheduler.blocking.length ≤ counterLimit := by
  rw [Scheduler.runs, List.length_append] at few
  omega

theorem Scheduler.close_accounted {scheduler : Scheduler Activity} {world : World}
    (accounted : Accounted scheduler world) :
    Accounted (scheduler.close world).1 (scheduler.close world).2 := by
  have counted (id : Nat) (object : MapObject)
      (present : (scheduler.close world).2.object? id = some object) : object.pauseCount = 0 := by
    rw [object?_close accounted] at present
    obtain ⟨earlier, _, rfl⟩ := Option.map_eq_some_iff.mp present
    rfl
  exact ⟨⟨counted, by simp [close]⟩, by simp [close]⟩

namespace MapScene

theorem update_accounted {scene : MapScene} {world : World} (input : InputSnapshot)
    (accounted : Accounted scene.scheduler world)
    (few : (scene.opened world).1.blocking.length ≤ counterLimit)
    (left : (scene.update input world).2.1.scheduler.blocking.length ≤ counterLimit) :
    Accounted (scene.update input world).2.1.scheduler (scene.update input world).2.2 := by
  obtain ⟨_, scheduler, moved, moves, after⟩ := scene.update_eq input world
  have keeps : KeepsPauses
      ((scene.opened world).1.update .standard (scene.opened world).2).2.2 moved := by
    rcases moves with rfl | rfl
    · exact .refl _
    · exact moveHero_view (fun _ _ _ => rfl) _ _ _
  have opened := (scene.opened_opens world).accounted few accounted
  rw [scheduler] at left ⊢
  rw [after]
  have passed := Scheduler.update_accounted maxCallDepth opened left
  exact ⟨passed.balanced.of_keepsPauses (keeps.trans (.endFrame moved fun _ => rfl)), passed.besides⟩

theorem listen_accounted {scene : MapScene} {world : World} (event : InputEvent)
    (accounted : Accounted scene.scheduler world)
    (few : (scene.listen event world).1.scheduler.blocking.length ≤ counterLimit) :
    Accounted (scene.listen event world).1.scheduler (scene.listen event world).2 := by
  have heard := Scheduler.listen_accounted .standard accounted event
  unfold listen at few ⊢
  dsimp only at few ⊢
  split at few
  · rename_i acts
    rw [if_pos acts]
    exact (heroAction_opens _ world).accounted few heard
  · rename_i rests
    rw [if_neg rests]
    exact heard

end MapScene

theorem Operation.accounted {scene : MapScene} {world : World} (operation : Operation)
    (accounted : Accounted scene.scheduler world)
    (few : ∀ moment ∈ operation.moments scene world, moment.runs.length ≤ counterLimit) :
    Accounted (operation.apply scene world).1.scheduler (operation.apply scene world).2 := by
  cases operation with
  | add reaction trigger moving =>
    have fits := Scheduler.blocking_le (few _ (List.mem_singleton_self _))
    have opens : Opens (fun _ _ _ _ => True) (scene.scheduler, world)
        ((scene.scheduler.add? world reaction trigger moving).getD (scene.scheduler, world)) := by
      cases added : scene.scheduler.add? world reaction trigger moving with
      | none => exact .refl _
      | some started => exact .start reaction trigger moving trivial added (.refl started)
    exact opens.accounted fits accounted
  | receive delivery =>
    have fits := Scheduler.blocking_le (few _ (List.mem_singleton_self _))
    exact (Scheduler.receive_opens scene.scheduler world delivery).accounted fits accounted
  | send request =>
    have fits := Scheduler.blocking_le (few _ (List.mem_singleton_self _))
    exact (Scheduler.send_opens scene.scheduler world request).accounted fits accounted
  | tick =>
    have fits := Scheduler.blocking_le (few _ (List.mem_singleton_self _))
    exact Scheduler.update_accounted maxCallDepth accounted fits
  | listen event => exact Scheduler.listen_accounted .standard accounted event
  | close => exact Scheduler.close_accounted accounted
  | updateScene input =>
    have opened := Scheduler.blocking_le (few _ List.mem_cons_self)
    have left := Scheduler.blocking_le (few _ (List.mem_cons_of_mem _ (List.mem_singleton_self _)))
    exact MapScene.update_accounted input accounted opened left
  | listenScene event =>
    have fits := Scheduler.blocking_le (few _ (List.mem_singleton_self _))
    exact MapScene.listen_accounted event accounted fits
  | removeObject id =>
    exact ⟨accounted.balanced.of_keepsPauses (.removeObject world id fun _ => rfl), accounted.besides⟩
  | endFrame => exact ⟨accounted.balanced.of_keepsPauses (.endFrame world fun _ => rfl), accounted.besides⟩

theorem InPlay.accounted {scene : MapScene} {world : World} (inPlay : InPlay scene world) :
    Accounted scene.scheduler world := by
  induction inPlay with
  | loaded scene world idle free =>
    obtain ⟨blocking, parallel⟩ := List.append_eq_nil_iff.mp idle
    refine ⟨⟨fun id object present => ?_, by simp [blocking]⟩, by simp [parallel]⟩
    rw [blocking, free id object present]
    rfl
  | next inPlay operation few ih => exact operation.accounted ih few

/-- Every object counts exactly the reactions that hold it, and closing frees all of them. -/
theorem pauses_accounted {scene : MapScene} {world : World} (inPlay : InPlay scene world) :
    (∀ id object, world.object? id = some object →
      object.pauseCount = (scene.scheduler.blocking.filter (fun run =>
        run.trigger.object == some id && run.holdsPause)).length) ∧
    (∀ run ∈ scene.scheduler.parallel, run.holdsPause = false) ∧
    (∀ run ∈ scene.scheduler.runs, run.moving = true → run.holdsPause = false) ∧
    (scene.scheduler.close world).1.runs = [] ∧
    ∀ id, (scene.scheduler.close world).2.object? id =
      (world.object? id).map (fun object => { object with pauseCount := 0 }) := by
  have accounted := inPlay.accounted
  refine ⟨fun id object present => ?_, accounted.besides, fun run member route => ?_, rfl,
    Scheduler.object?_close accounted⟩
  · rw [accounted.balanced.counted id object present, List.countP_eq_length_filter]
    congr 2
    funext run
    exact Bool.and_comm _ _
  · rcases List.mem_append.mp member with blocking | parallel
    · exact (accounted.balanced.tidy run blocking).route route
    · exact accounted.besides run parallel

def doorway : World := World.insertObject {} (MapObject.create 1 "door" ⟨0, 0⟩ {})

def knock : Reaction :=
  ⟨.loose 0, "knock", .single (.showText none "Who is there?"), false⟩

def knocked : MapScene × World :=
  let begun := (Operation.add knock { object := some 1 } false).apply { map := 1 } doorway
  (Operation.updateScene {}).apply begun.1 begun.2

theorem door_held_until_closed :
    (knocked.2.object? 1).map (·.pauseCount) = some 1 ∧
      ((knocked.1.scheduler.close knocked.2).2.object? 1).map (·.pauseCount) = some 0 := by
  have free (id : Nat) (object : MapObject) (present : doorway.object? id = some object) :
      object.pauseCount = 0 := by
    by_cases named : id = 1
    · subst named
      cases present
      rfl
    · have absent : doorway.object? id = none := by
        simp [doorway, World.object?, World.insertObject, IdMap.insert, Ascending.place, IdMap.get?,
          MapObject.create, EmptyCollection.emptyCollection, IdMap.empty, Ne.symm named]
      rw [absent] at present
      cases present
  have begun := (InPlay.loaded { map := 1 } doorway rfl free).next
    (.add knock { object := some 1 } false) (by decide +kernel)
  have inPlay : InPlay knocked.1 knocked.2 := begun.next (.updateScene {}) (by decide +kernel)
  obtain ⟨_, _, _, _, closed⟩ := pauses_accounted inPlay
  have held : (knocked.2.object? 1).map (·.pauseCount) = some 1 := by decide +kernel
  refine ⟨held, ?_⟩
  rw [closed 1]
  cases present : knocked.2.object? 1 with
  | none => rw [present] at held; cases held
  | some object => rfl

end TileScript
