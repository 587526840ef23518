import Mathlib.Data.List.Forall2
import TileScript.Proofs.Run.Seats
import TileScript.Proofs.Scheduler.Pauses
import TileScript.Proofs.Scheduler.Turns

namespace TileScript

namespace Run

variable {σ : Type}

def key (run : Run σ) : Option Nat × Origin := (run.trigger.object, run.reaction.origin)

structure Underway (run : Run σ) : Prop where
  seated : run.Seated
  live : run.isFinished = false
  alone : run.isParallel = false

structure From (fork : Fork) (run : Run σ) : Prop where
  marked : run.isParallel = true
  reaction : run.reaction = fork.reaction
  trigger : run.trigger = fork.trigger
  located : run.cursor = some (.enter fork.node)
  going : run.failed = false
  sound : fork.Beside

theorem listen_eq (language : Language σ) (run : Run σ) (event : InputEvent) :
    ∃ state, (run.listen language event).1 = { run with state := state } := by
  unfold listen
  split
  · exact ⟨_, rfl⟩
  · exact ⟨run.state, rfl⟩

theorem Continues.key_eq {before after : Run σ} (continues : Continues before after) :
    after.key = before.key := by
  obtain ⟨place, state, failed, rfl⟩ := continues
  rfl

theorem Continues.isParallel_eq {before after : Run σ} (continues : Continues before after) :
    after.isParallel = before.isParallel := by
  obtain ⟨place, state, failed, rfl⟩ := continues
  rfl

theorem Underway.listen {run : Run σ} (language : Language σ) (underway : run.Underway)
    (event : InputEvent) : (run.listen language event).1.Underway := by
  have seated := underway.seated.listen language event
  obtain ⟨state, heard⟩ := run.listen_eq language event
  rw [heard] at seated ⊢
  exact ⟨seated, underway.live, underway.alone⟩

namespace From

variable {fork : Fork} {run : Run σ}

theorem inside (forked : From fork run) : 0 < fork.node ∧ fork.node ≤ run.tree.size := by
  obtain ⟨command, carried, _⟩ := forked.sound
  rw [tree, forked.reaction]
  exact Tree.le_size_of_item? carried

theorem seated (forked : From fork run) : run.Seated :=
  .of_enter forked.located forked.inside forked.going

theorem beside {fork : Fork} (sound : fork.Beside) :
    From fork (Run.beside fork.reaction fork.trigger fork.node : Run σ) :=
  ⟨rfl, rfl, rfl, rfl, rfl, sound⟩

theorem listen (language : Language σ) (forked : From fork run) (event : InputEvent) :
    From fork (run.listen language event).1 := by
  obtain ⟨state, heard⟩ := run.listen_eq language event
  rw [heard]
  exact ⟨forked.marked, forked.reaction, forked.trigger, forked.located, forked.going, forked.sound⟩

/-- A parallel run that is at the same node after its turn stands there as before. -/
theorem tick (language : Language σ) (forked : From fork run) (stage : Stage)
    (still : (run.tick language stage).1.node? = run.node?) :
    From fork (run.tick language stage).1 := by
  have seated := forked.seated.tick language stage
  obtain ⟨place, state, failed, ticked⟩ := run.tick_continues language stage
  have here : (run.tick language stage).1.cursor = some (.enter fork.node) := by
    rw [node?, node?, forked.located] at still
    obtain ⟨⟨node, phase⟩, located, same⟩ := Option.map_eq_some_iff.mp still
    cases seated.entering _ located
    cases same
    exact located
  refine ⟨?_, ?_, ?_, here, seated.not_failed here, forked.sound⟩ <;> rw [ticked]
  · exact forked.marked
  · exact forked.reaction
  · exact forked.trigger

end From

end Run

open Run (Underway From)

namespace Scheduler

variable {σ : Type}

/-- No reaction runs twice for one object, and each parallel run stands where one of the forks put
it. -/
structure Orderly (scheduler : Scheduler σ) (forks : List Fork) : Prop where
  distinct : (scheduler.blocking.map Run.key).Nodup
  underway : ∀ run ∈ scheduler.blocking, run.Underway
  forked : List.Forall₂ From forks scheduler.parallel

theorem orderly_idle {scheduler : Scheduler σ} (blocking : scheduler.blocking = [])
    (parallel : scheduler.parallel = []) : Orderly scheduler [] := by
  refine ⟨?_, ?_, ?_⟩
  · simp [blocking]
  · simp [blocking]
  · rw [parallel]
    exact .nil

theorem key_notMem {scheduler : Scheduler σ} {object : Option Nat} {reaction : Reaction}
    (free : scheduler.isRunning object reaction = false) :
    (object, reaction.origin) ∉ scheduler.blocking.map Run.key := by
  intro member
  obtain ⟨run, known, same⟩ := List.mem_map.mp member
  have differs := List.any_eq_false.mp free run known
  obtain ⟨bound, declared⟩ := Prod.mk.inj same
  simp [bound, declared] at differs

theorem Opens.orderly {allowed : World → Reaction → Trigger → Bool → Prop}
    {before after : Scheduler σ × World} {forks : List Fork} (opens : Opens allowed before after)
    (orderly : Orderly before.1 forks) : Orderly after.1 forks := by
  induction opens with
  | refl state => exact orderly
  | start reaction trigger moving allows added rest ih =>
    obtain ⟨nonempty, free, held, started, _⟩ := add?_some added
    refine ih ?_
    rw [started]
    refine ⟨?_, fun run member => ?_, orderly.forked⟩
    · rw [List.map_append, List.nodup_append]
      refine ⟨orderly.distinct, List.pairwise_singleton _ _, fun key old new fresh => ?_⟩
      rintro rfl
      cases List.mem_singleton.mp fresh
      exact key_notMem free old
    · rcases List.mem_append.mp member with old | new
      · exact orderly.underway run old
      · cases List.mem_singleton.mp new
        exact ⟨.start reaction trigger moving 0 held, Reaction.begins nonempty, rfl⟩
  | touch id change touch rest ih => exact ih orderly

/-- A pass lets runs go; those that stay keep their order and what they are. -/
theorem passBlocking_underway (language : Language σ) {runs : List (Run σ)}
    (underway : ∀ run ∈ runs, run.Underway) (stage : Stage) :
    ((passBlocking language runs stage).1.map Run.key).Sublist (runs.map Run.key) ∧
      ∀ run ∈ (passBlocking language runs stage).1, run.Underway := by
  obtain ⟨pass, kept⟩ := passBlocking_passes language runs stage
  generalize blockingTurns language runs stage = turns at pass kept
  have had (turn : Run σ × Stage) (member : turn ∈ turns) : turn.1.Underway := by
    have taken : turn.1 ∈ runs.take turns.length := pass.inOrder ▸ List.mem_map_of_mem member
    exact underway turn.1 (List.mem_of_mem_take taken)
  rw [kept]
  constructor
  · have same : (survivors language (ends language) turns).map Run.key =
        ((turns.filter fun turn => !ends language turn).map Prod.fst).map Run.key := by
      simp only [survivors, List.map_map]
      exact List.map_congr_left fun turn _ => (turn.1.tick_continues language turn.2).key_eq
    have left : (((turns.filter fun turn => !ends language turn).map Prod.fst)).Sublist
        (runs.take turns.length) := by
      rw [← pass.inOrder]
      exact List.filter_sublist.map _
    rw [List.map_append, same, ← List.map_append]
    conv => rhs; rw [← List.take_append_drop turns.length runs]
    exact (left.append (.refl _)).map _
  · rw [List.forall_mem_append]
    refine ⟨fun run member => ?_, fun run member => underway run (List.mem_of_mem_drop member)⟩
    obtain ⟨turn, stays, rfl⟩ := List.mem_map.mp member
    obtain ⟨taken, live⟩ := List.mem_filter.mp stays
    have before := had turn taken
    exact ⟨before.seated.tick language turn.2, by simpa [ends] using live,
      (turn.1.tick_continues language turn.2).isParallel_eq.trans before.alone⟩

theorem Successive.forks {levels : Nat} {goes : Run Activity × Stage → Bool} {first last : Stage}
    {turns : List (Run Activity × Stage)}
    (successive : Successive (.within .inert levels) goes first turns last)
    (sound : ∀ fork ∈ first.effects.forks, fork.Beside) :
    ∀ fork ∈ last.effects.forks, fork.Beside := by
  induction successive with
  | done stage => exact sound
  | @turn stage _ _ run rest ih =>
    refine ih ?_
    obtain ⟨more, grown, added⟩ := run.tick_forks levels stage
    rw [leftBy_effects, grown]
    exact List.forall_mem_append.mpr ⟨sound, added⟩

def staying (language : Language σ) : List Fork → List (Run σ × Stage) → List Fork
  | fork :: forks, turn :: turns =>
    if (turn.1.tick language turn.2).1.node? != turn.1.node? then staying language forks turns
    else fork :: staying language forks turns
  | _, _ => []

theorem passParallel_from (language : Language σ) {forks : List Fork} {runs : List (Run σ)}
    (forked : List.Forall₂ From forks runs) (stage : Stage) :
    List.Forall₂ From (staying language forks (parallelTurns language runs stage))
      (passParallel language runs stage).1 := by
  induction forked generalizing stage with
  | nil => exact .nil
  | @cons fork run forks runs first rest ih =>
    have others := ih (passParallel language [run] stage).2
    have passed : (passParallel language (run :: runs) stage).1 =
        if (run.tick language stage).1.node? != run.node? then
          (passParallel language runs (passParallel language [run] stage).2).1
        else (run.tick language stage).1 ::
          (passParallel language runs (passParallel language [run] stage).2).1 := rfl
    rw [parallelTurns, staying, passed]
    cases moved : (run.tick language stage).1.node? != run.node? with
    | true =>
      simp only [↓reduceIte]
      exact others
    | false =>
      have still : (run.tick language stage).1.node? = run.node? := by simpa using moved
      simp only [Bool.false_eq_true, ↓reduceIte]
      exact .cons (first.tick language stage still) others

theorem commit_orderly {scheduler : Scheduler σ} {forks : List Fork} {stage : Stage}
    (orderly : Orderly scheduler forks) (sound : ∀ fork ∈ stage.effects.forks, fork.Beside) :
    Orderly (scheduler.commit stage).1 (forks ++ stage.effects.forks) := by
  have added : List.Forall₂ From stage.effects.forks (stage.effects.forks.map
      (fun fork => (Run.beside fork.reaction fork.trigger fork.node : Run σ))) := by
    rw [List.forall₂_map_right_iff, List.forall₂_same]
    exact fun fork member => From.beside (sound fork member)
  exact (commit_opens scheduler stage).orderly
    ⟨orderly.distinct, orderly.underway, List.rel_append orderly.forked added⟩

def forksAfter (language : Language σ) (scheduler : Scheduler σ) (world : World)
    (forks : List Fork) : List Fork :=
  let begun := { scheduler with blocksHero := scheduler.blocking.any (·.reaction.blocksHero) }
  let blocked := passBlocking language begun.blocking ⟨world, {}⟩
  match blocked.2.effects.scene with
  | some _ => forks
  | none =>
    let committed := { begun with blocking := blocked.1 }.commit blocked.2
    staying language (forks ++ blocked.2.effects.forks)
        (parallelTurns language committed.1.parallel ⟨committed.2, {}⟩) ++
      (passParallel language committed.1.parallel ⟨committed.2, {}⟩).2.effects.forks

theorem update_orderly (levels : Nat) {scheduler : Scheduler Activity} {forks : List Fork}
    (orderly : Orderly scheduler forks) (world : World) :
    Orderly (scheduler.update (.within .inert levels) world).2.1
      (scheduler.forksAfter (.within .inert levels) world forks) := by
  obtain ⟨kept, underway⟩ :=
    passBlocking_underway (.within .inert levels) orderly.underway ⟨world, {}⟩
  have none : ∀ fork ∈ ([] : List Fork), fork.Beside := fun _ member => nomatch member
  have sound := (passBlocking_passes (.within .inert levels) scheduler.blocking
    ⟨world, {}⟩).1.successive.forks none
  unfold update forksAfter
  dsimp only
  generalize passBlocking (.within .inert levels) scheduler.blocking ⟨world, {}⟩ = blocked
    at kept underway sound ⊢
  have survived (blocksHero : Bool) : Orderly
      { scheduler with blocksHero := blocksHero, blocking := blocked.1 } forks :=
    ⟨orderly.distinct.sublist kept, underway, orderly.forked⟩
  cases blocked.2.effects.scene with
  -- A change of scene cuts the tick short before the forks are taken over.
  | some request => exact ⟨(survived true).distinct, underway, orderly.forked⟩
  | none =>
    have committed := commit_orderly (survived
      (scheduler.blocking.any (·.reaction.blocksHero))) sound
    dsimp only
    refine commit_orderly ⟨committed.distinct, committed.underway,
      passParallel_from _ committed.forked _⟩ ?_
    exact (passParallel_passes _ _ _).1.successive.forks none

theorem listen_orderly (language : Language σ) {scheduler : Scheduler σ} {forks : List Fork}
    (orderly : Orderly scheduler forks) (event : InputEvent) :
    Orderly (scheduler.listen language event) forks := by
  have keys : (scheduler.listen language event).blocking.map Run.key =
      scheduler.blocking.map Run.key := by
    simp only [listen, List.map_map]
    refine List.map_congr_left fun run _ => (run.listen_continues language event).key_eq
  refine ⟨keys ▸ orderly.distinct, fun run member => ?_, ?_⟩
  · simp only [listen, List.map_map] at member
    obtain ⟨before, known, rfl⟩ := List.mem_map.mp member
    exact (orderly.underway before known).listen language event
  · simp only [listen, List.map_map]
    rw [List.forall₂_map_right_iff]
    exact orderly.forked.imp fun fork run forked => forked.listen language event

inductive Reached : Scheduler Activity → List Fork → Prop where
  | empty : Reached {} []
  | add {scheduler : Scheduler Activity} {forks : List Fork} {started : Scheduler Activity × World}
      (reached : Reached scheduler forks) (world : World) (reaction : Reaction) (trigger : Trigger)
      (moving : Bool) (added : scheduler.add? world reaction trigger moving = some started) :
      Reached started.1 forks
  | receive {scheduler : Scheduler Activity} {forks : List Fork} (reached : Reached scheduler forks)
      (world : World) (delivery : Delivery) : Reached (scheduler.receive world delivery).2.1 forks
  | send {scheduler : Scheduler Activity} {forks : List Fork} (reached : Reached scheduler forks)
      (world : World) (request : EventRequest) : Reached (scheduler.send world request).2.1 forks
  | update {scheduler : Scheduler Activity} {forks : List Fork} (reached : Reached scheduler forks)
      (world : World) :
      Reached (scheduler.update .standard world).2.1 (scheduler.forksAfter .standard world forks)
  | listen {scheduler : Scheduler Activity} {forks : List Fork} (reached : Reached scheduler forks)
      (event : InputEvent) : Reached (scheduler.listen .standard event) forks
  | close {scheduler : Scheduler Activity} {forks : List Fork} (reached : Reached scheduler forks)
      (world : World) : Reached (scheduler.close world).1 []

theorem Reached.orderly {scheduler : Scheduler Activity} {forks : List Fork}
    (reached : Reached scheduler forks) : Orderly scheduler forks := by
  induction reached with
  | empty => exact orderly_idle rfl rfl
  | @add scheduler _ started reached world reaction trigger moving added ih =>
    have opens : Opens (fun _ _ _ _ => True) (scheduler, world) started :=
      .start reaction trigger moving trivial added (.refl _)
    exact opens.orderly ih
  | @receive scheduler _ reached world delivery ih =>
    exact (receive_opens scheduler world delivery).orderly ih
  | @send scheduler _ reached world request ih =>
    exact (send_opens scheduler world request).orderly ih
  | update reached world ih => exact update_orderly maxCallDepth ih world
  | listen reached event ih => exact listen_orderly .standard ih event
  | close reached world ih => exact orderly_idle rfl rfl

/--
In every state a scheduler gets into no reaction runs twice for one object; every run is about to
enter a node of its tree; and every parallel run, and no other run, is marked as such and stands at
the node it was forked at, whose command runs beside its reaction.
-/
theorem reached_runs_in_place {scheduler : Scheduler Activity} {forks : List Fork}
    (reached : Reached scheduler forks) :
    scheduler.blocking.Pairwise (fun first second =>
      ¬ (first.trigger.object = second.trigger.object ∧
        first.reaction.origin = second.reaction.origin)) ∧
    (∀ run ∈ scheduler.runs, run.isFinished = false ∧ run.failed = false ∧
      ∃ node, run.cursor = some (.enter node) ∧ 0 < node ∧ node ≤ run.tree.size) ∧
    List.Forall₂ (fun fork run => run.isParallel = true ∧ run.reaction = fork.reaction ∧
      run.trigger = fork.trigger ∧ run.node? = some fork.node ∧
      ∃ command, run.tree.item? fork.node = some command ∧ command.runsBeside = true)
      forks scheduler.parallel ∧
    ∀ run ∈ scheduler.blocking, run.isParallel = false := by
  have orderly := reached.orderly
  have standing (run : Run Activity) (seated : run.Seated) (live : run.isFinished = false) :
      run.isFinished = false ∧ run.failed = false ∧
        ∃ node, run.cursor = some (.enter node) ∧ 0 < node ∧ node ≤ run.tree.size := by
    refine ⟨live, seated.not_failed_of_live live, ?_⟩
    cases located : run.cursor with
    | none => simp [Run.isFinished, located] at live
    | some cursor =>
      obtain ⟨node, phase⟩ := cursor
      cases seated.entering _ located
      exact ⟨node, rfl, seated.inside _ located⟩
  refine ⟨?_, fun run member => ?_, ?_, fun run member => (orderly.underway run member).alone⟩
  · refine (List.pairwise_map.mp orderly.distinct).imp fun differs same => ?_
    exact differs (Prod.ext same.1 same.2)
  · rcases List.mem_append.mp member with blocking | parallel
    · have underway := orderly.underway run blocking
      exact standing run underway.seated underway.live
    · obtain ⟨fork, forked⟩ : ∃ fork, From fork run := by
        obtain ⟨index, within, rfl⟩ := List.getElem_of_mem parallel
        have counted := orderly.forked.length_eq
        exact ⟨_, orderly.forked.get (by omega) within⟩
      refine standing run forked.seated ?_
      rw [Run.isFinished, forked.located]
      rfl
  · refine orderly.forked.imp fun fork run forked => ?_
    refine ⟨forked.marked, forked.reaction, forked.trigger, ?_, ?_⟩
    · rw [Run.node?, forked.located]
      rfl
    · rw [Run.tree, forked.reaction]
      exact forked.sound

def yard : World := World.insertObject {} (MapObject.create 1 "guard" ⟨0, 0⟩ {})

def patrol : Reaction :=
  ⟨.loose 0, "patrol", (Tree.single (.moveObject .this [.right] false 4)).add 0
    (.showText none "Halt!") (Nat.zero_le _), false⟩

def guarded : Scheduler Activity × World :=
  (({} : Scheduler Activity).add? yard patrol { object := some 1 } false).getD ({}, yard)

theorem guard_walks_beside :
    let patrolled := (guarded.1.update .standard guarded.2).2.1
    patrolled.blocking.length = 1 ∧ patrolled.parallel.length = 1 ∧
      ∀ run ∈ patrolled.runs, run.isFinished = false ∧ run.failed = false := by
  have added : ({} : Scheduler Activity).add? yard patrol { object := some 1 } false =
      some guarded := rfl
  have begun : Reached guarded.1 [] := .add .empty yard patrol _ false added
  obtain ⟨_, standing, _, _⟩ := reached_runs_in_place (begun.update guarded.2)
  refine ⟨by decide +kernel, by decide +kernel, fun run member => ?_⟩
  obtain ⟨live, going, _⟩ := standing run member
  exact ⟨live, going⟩

end Scheduler

end TileScript
