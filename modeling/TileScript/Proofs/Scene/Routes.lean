import Mathlib.Data.List.Perm.Subperm
import TileScript.Proofs.Scheduler.Invariants
import TileScript.Proofs.Scheduler.Orderly

namespace TileScript

open World (Keeps SameCast)

namespace Run

variable {σ : Type}

def routeFor (id : Nat) (run : Run σ) : Bool := run.moving && run.trigger.object == some id

theorem Continues.routeFor_eq {before after : Run σ} (continues : Continues before after) (id : Nat) :
    after.routeFor id = before.routeFor id := by
  obtain ⟨place, state, failed, rfl⟩ := continues
  rfl

theorem routeFor_of_still {run : Run σ} (still : run.moving = false) (id : Nat) :
    run.routeFor id = false := by
  simp [routeFor, still]

end Run

def World.routesOf (world : World) (id : Nat) : List Reaction :=
  (world.object? id).elim [] (fun object => object.model.states.filterMap (·.route))

theorem World.mem_routesOf {world : World} {id : Nat} {object : MapObject} {route : Reaction}
    (present : world.object? id = some object) (current : object.route? = some route) :
    route ∈ world.routesOf id := by
  rw [World.routesOf, present]
  exact List.mem_filterMap.mpr (MapObject.route?_declared current)

theorem World.SameCast.routesOf_eq {before after : World} (same : SameCast before after) {id : Nat}
    {object : MapObject} (present : after.object? id = some object) :
    after.routesOf id = before.routesOf id := by
  obtain ⟨earlier, found, model⟩ := same.models id object present
  simp [World.routesOf, present, found, model]

namespace Scheduler

variable {σ : Type}

def routesFor (scheduler : Scheduler σ) (id : Nat) : List (Run σ) :=
  scheduler.runs.filter (Run.routeFor id)

theorem mem_routesFor {scheduler : Scheduler σ} {id : Nat} {run : Run σ} :
    run ∈ scheduler.routesFor id ↔
      run ∈ scheduler.runs ∧ run.moving = true ∧ run.trigger.object = some id := by
  simp [routesFor, Run.routeFor]

theorem length_routesFor (scheduler : Scheduler σ) (id : Nat) :
    (scheduler.routesFor id).length = scheduler.runs.countP (Run.routeFor id) :=
  List.countP_eq_length_filter.symm

theorem survivors_countP_le (language : Language σ) (goes : Run σ × Stage → Bool)
    (turns : List (Run σ × Stage)) (id : Nat) :
    (survivors language goes turns).countP (Run.routeFor id) ≤
      (turns.map Prod.fst).countP (Run.routeFor id) := by
  have steady : Run.routeFor id ∘ (fun turn : Run σ × Stage => (turn.1.tick language turn.2).1) =
      Run.routeFor id ∘ Prod.fst := by
    funext turn
    exact (turn.1.tick_continues language turn.2).routeFor_eq id
  rw [survivors, List.countP_map, List.countP_map, steady]
  exact List.filter_sublist.countP_le

theorem Opens.countP_eq {before after : Scheduler σ × World} (opens : Opens World.Answers before after)
    (id : Nat) :
    after.1.runs.countP (Run.routeFor id) = before.1.runs.countP (Run.routeFor id) := by
  induction opens with
  | refl state => rfl
  | start reaction trigger moving answers added rest ih =>
    obtain ⟨_, _, held, begun, _⟩ := add?_some added
    have still : Run.routeFor id ({ Run.start reaction trigger with
        moving := moving, holdsPause := held } : Run σ) = false :=
      Run.routeFor_of_still answers.1 id
    rw [ih, begun]
    simp [runs, still]
  | touch key change touch rest ih => exact ih

theorem commit_countP_eq (scheduler : Scheduler σ) (stage : Stage) (id : Nat) :
    (scheduler.commit stage).1.runs.countP (Run.routeFor id) =
      scheduler.runs.countP (Run.routeFor id) := by
  have beside : (Run.routeFor id : Run σ → Bool) ∘
      (fun fork : Fork => Run.beside fork.reaction fork.trigger fork.node) = fun _ => false :=
    rfl
  rw [(commit_opens scheduler stage).countP_eq id]
  simp [runs, collect, List.countP_map, beside]

/-- A tick starts no route. -/
theorem update_countP_le (language : Language σ) (scheduler : Scheduler σ) (world : World)
    (id : Nat) :
    (scheduler.update language world).2.1.runs.countP (Run.routeFor id) ≤
      scheduler.runs.countP (Run.routeFor id) := by
  obtain ⟨pass, kept⟩ := passBlocking_passes language scheduler.blocking ⟨world, {}⟩
  have fewer : (passBlocking language scheduler.blocking ⟨world, {}⟩).1.countP (Run.routeFor id) ≤
      scheduler.blocking.countP (Run.routeFor id) := by
    have turned := survivors_countP_le language (ends language)
      (blockingTurns language scheduler.blocking ⟨world, {}⟩) id
    have whole := congrArg (List.countP (Run.routeFor id)) (List.take_append_drop
      (blockingTurns language scheduler.blocking ⟨world, {}⟩).length scheduler.blocking)
    rw [pass.inOrder] at turned
    rw [List.countP_append] at whole
    rw [kept, List.countP_append]
    omega
  unfold update
  dsimp only
  generalize passBlocking language scheduler.blocking ⟨world, {}⟩ = blocked at fewer ⊢
  cases blocked.2.effects.scene with
  | some request =>
    simp only [runs, collect, List.countP_append]
    omega
  | none =>
    dsimp only
    have carried := commit_countP_eq { scheduler with
      blocking := blocked.1
      blocksHero := scheduler.blocking.any (·.reaction.blocksHero) } blocked.2 id
    generalize Scheduler.commit _ blocked.2 = committed at carried ⊢
    obtain ⟨parallel, left⟩ :=
      passParallel_passes language committed.1.parallel ⟨committed.2, {}⟩
    have turned := survivors_countP_le language (moves language)
      (parallelTurns language committed.1.parallel ⟨committed.2, {}⟩) id
    rw [parallel.inOrder, ← left] at turned
    rw [commit_countP_eq]
    simp only [runs, List.countP_append] at carried ⊢
    omega

theorem listen_countP_eq (language : Language σ) (scheduler : Scheduler σ) (event : InputEvent)
    (id : Nat) :
    (scheduler.listen language event).runs.countP (Run.routeFor id) =
      scheduler.runs.countP (Run.routeFor id) := by
  have heard : (scheduler.listen language event).runs =
      scheduler.runs.map (fun run => (run.listen language event).1) := by
    simp only [runs, listen, List.map_map, List.map_append]
    rfl
  have steady : Run.routeFor id ∘ (fun run : Run σ => (run.listen language event).1) =
      Run.routeFor id := by
    funext run
    exact (run.listen_continues language event).routeFor_eq id
  rw [heard, List.countP_map, steady]

theorem Opens.keepsRoutes {allowed : World → Reaction → Trigger → Bool → Prop}
    {before after : Scheduler σ × World} (opens : Opens allowed before after) :
    Keeps MapObject.route? before.2 after.2 := by
  induction opens with
  | refl state => exact .refl state.2
  | @start state _ _ reaction trigger moving allows added rest ih =>
    refine Keeps.trans ?_ ih
    obtain ⟨_, _, _, _, ⟨_, same⟩ | ⟨_, _, id, _, same⟩⟩ := add?_some added
    · rw [same]
      exact .refl state.2
    · rw [same]
      exact .modifyObject state.2 id (fun _ => rfl)
  | touch id change touch rest ih =>
    exact Keeps.trans (.modifyObject _ id touch.route?_eq) ih

/-- The routes after some starts are those from before and the current ones of their objects. -/
theorem Opens.routes {before after : Scheduler σ × World} (opens : Opens World.Declares before after)
    {id : Nat} {run : Run σ} (plays : run ∈ after.1.routesFor id) :
    run ∈ before.1.routesFor id ∨
      ∃ object, before.2.object? id = some object ∧ object.route? = some run.reaction := by
  induction opens with
  | refl state => exact .inl plays
  | @start state started _ reaction trigger moving declares added rest ih =>
    have first : Opens World.Declares state started :=
      .start reaction trigger moving declares added (.refl started)
    rcases ih plays with earlier | ⟨object, present, current⟩
    · obtain ⟨_, _, held, begun, _⟩ := add?_some added
      obtain ⟨member, route, bound⟩ := mem_routesFor.mp earlier
      simp only [runs, begun, List.mem_append, List.mem_singleton] at member
      rcases member with (old | rfl) | beside
      · exact .inl (mem_routesFor.mpr ⟨List.mem_append_left _ old, route, bound⟩)
      · rcases declares with ⟨still, _⟩ | ⟨_, owner, object, owned, present, current⟩
        · rw [still] at route
          cases route
        · cases bound.symm.trans owned
          exact .inr ⟨object, present, current⟩
      · exact .inl (mem_routesFor.mpr ⟨List.mem_append_right _ beside, route, bound⟩)
    · obtain ⟨object', found, same⟩ := first.keepsRoutes id object present
      exact .inr ⟨object', found, same ▸ current⟩
  | @touch state _ key change touch rest ih =>
    rcases ih plays with earlier | ⟨object, present, current⟩
    · exact .inl earlier
    · have touched : Keeps MapObject.route? state.2 (state.2.modifyObject key change) :=
        .modifyObject state.2 key touch.route?_eq
      obtain ⟨object', found, same⟩ := touched id object present
      exact .inr ⟨object', found, same ▸ current⟩

theorem Orderly.pairwise_routesFor {scheduler : Scheduler σ} {forks : List Fork}
    (orderly : Orderly scheduler forks) (besides : ∀ run ∈ scheduler.parallel, run.moving = false)
    (id : Nat) :
    (scheduler.routesFor id).Pairwise (fun first second =>
      first.reaction.origin ≠ second.reaction.origin) := by
  have none : scheduler.parallel.filter (Run.routeFor id) = [] := by
    apply List.filter_eq_nil_iff.mpr
    intro run member
    simp [Run.routeFor_of_still (besides run member)]
  have apart : (scheduler.blocking.filter (Run.routeFor id)).Pairwise
      (fun first second => first.key ≠ second.key) :=
    (List.pairwise_map.mp orderly.distinct).filter _
  rw [routesFor, runs, List.filter_append, none, List.append_nil]
  refine apart.imp_of_mem fun {first second} one two differs same => differs ?_
  have bound {run : Run σ} (member : run ∈ scheduler.blocking.filter (Run.routeFor id)) :
      run.trigger.object = some id := by
    have route := (List.mem_filter.mp member).2
    simp only [Run.routeFor, Bool.and_eq_true, beq_iff_eq] at route
    exact route.2
  exact Prod.ext ((bound one).trans (bound two).symm) same

end Scheduler

open Scheduler (Upheld Sound Orderly)

inductive Toured (expected : MapScene → World → Prop) (start : World) : MapScene → World → Prop where
  | loaded (scene : MapScene) (idle : scene.scheduler.runs = []) : Toured expected start scene start
  | updated {scene : MapScene} {world : World} (toured : Toured expected start scene world)
      (fine : expected scene world) (input : InputSnapshot) :
      Toured expected start (scene.update input world).2.1 (scene.update input world).2.2
  | heard {scene : MapScene} {world : World} (toured : Toured expected start scene world)
      (event : InputEvent) :
      Toured expected start (scene.listen event world).1 (scene.listen event world).2

def MapScene.Steady (id : Nat) (scene : MapScene) (world : World) : Prop :=
  ∀ object route, world.object? id = some object → object.route? = some route →
    ∀ run ∈ scene.scheduler.routesFor id, run.reaction.origin = route.origin

structure Run.Routed {σ : Type} (start : World) (run : Run σ) : Prop where
  apart : run.isParallel = true → run.moving = false
  declared : run.moving = true → ∃ id, run.trigger.object = some id ∧ run.reaction ∈ start.routesOf id

theorem Run.Continues.routed {σ : Type} {start : World} {before after : Run σ}
    (continues : Continues before after) (routed : before.Routed start) : after.Routed start := by
  obtain ⟨place, state, failed, rfl⟩ := continues
  exact ⟨routed.apart, routed.declared⟩

theorem Run.routed_upheld (start : World) :
    Upheld .standard (Run.Routed start) (fun stage => SameCast start stage.world) where
  ticked run stage routed cast :=
    ⟨(run.tick_continues .standard stage).routed routed,
      cast.trans (run.tick_sameCast maxCallDepth stage)⟩
  heard run event routed := (run.listen_continues .standard event).routed routed
  forked stage cast fork asks := ⟨fun _ => rfl, fun moving => nomatch moving⟩
  started stage reaction trigger moving held cast declares := by
    constructor
    · intro parallel
      cases parallel
    intro route
    rcases declares with ⟨still, _⟩ | ⟨_, id, object, bound, present, current⟩
    · exact nomatch still.symm.trans route
    · refine ⟨id, bound, ?_⟩
      rw [← cast.routesOf_eq present]
      exact World.mem_routesOf present current
  recast stage world cast same _ := cast.trans same.toSameCast
  cleared stage cast := cast

namespace Toured

variable {expected : MapScene → World → Prop} {start world : World} {scene : MapScene}

theorem sound (toured : Toured expected start scene world) :
    Sound (Run.Routed start) (fun stage => SameCast start stage.world) scene.scheduler world := by
  induction toured with
  | loaded scene idle =>
    refine ⟨?_, .refl start⟩
    rw [idle]
    simp
  | updated toured fine input ih => exact (MapScene.update_sound (Run.routed_upheld start) ih input).1
  | heard toured event ih => exact MapScene.listen_sound (Run.routed_upheld start) ih event

theorem orderly (toured : Toured expected start scene world) :
    ∃ forks, Orderly scene.scheduler forks := by
  induction toured with
  | loaded scene idle =>
    obtain ⟨blocking, parallel⟩ := List.append_eq_nil_iff.mp idle
    exact ⟨[], Scheduler.orderly_idle blocking parallel⟩
  | @updated scene world toured fine input ih =>
    obtain ⟨forks, orderly⟩ := ih
    have opened := (scene.opened_opens world).orderly orderly
    have passed := Scheduler.update_orderly maxCallDepth opened (scene.opened world).2
    obtain ⟨_, scheduler, _⟩ := scene.update_eq input world
    rw [scheduler]
    exact ⟨_, passed.distinct, passed.underway, passed.forked⟩
  | @heard scene world toured event ih =>
    obtain ⟨forks, orderly⟩ := ih
    have heard := Scheduler.listen_orderly .standard orderly event
    unfold MapScene.listen
    dsimp only
    split
    · exact ⟨forks, (MapScene.heroAction_opens _ world).orderly heard⟩
    · exact ⟨forks, heard⟩

theorem besides (toured : Toured expected start scene world) :
    ∀ run ∈ scene.scheduler.parallel, run.moving = false := by
  intro run member
  obtain ⟨forks, orderly⟩ := toured.orderly
  obtain ⟨index, within, rfl⟩ := List.getElem_of_mem member
  have counted := orderly.forked.length_eq
  have marked := (orderly.forked.get (by omega) within).marked
  exact (toured.sound.runs _ (List.mem_append_right _ member)).apart marked

end Toured

theorem length_le_one_of_alike {α β : Type} {view : α → β} {items : List α}
    (apart : items.Pairwise (fun first second => view first ≠ view second))
    (alike : ∀ first ∈ items, ∀ second ∈ items, view first = view second) : items.length ≤ 1 := by
  match items with
  | [] => exact Nat.zero_le 1
  | [item] => exact Nat.le_refl 1
  | first :: second :: rest =>
    have differ := (List.pairwise_cons.mp apart).1 second List.mem_cons_self
    exact absurd (alike first List.mem_cons_self second (by simp)) differ

namespace Toured

variable {expected : MapScene → World → Prop} {start world : World} {scene : MapScene}

theorem apart (toured : Toured expected start scene world) (id : Nat) :
    (scene.scheduler.routesFor id).Pairwise (fun first second =>
      first.reaction.origin ≠ second.reaction.origin) := by
  obtain ⟨forks, orderly⟩ := toured.orderly
  exact orderly.pairwise_routesFor toured.besides id

theorem declared (toured : Toured expected start scene world) {id : Nat} {run : Run Activity}
    (plays : run ∈ scene.scheduler.routesFor id) :
    run.isParallel = false ∧ run.reaction ∈ start.routesOf id := by
  obtain ⟨member, route, bound⟩ := Scheduler.mem_routesFor.mp plays
  have routed := toured.sound.runs run member
  obtain ⟨owner, owned, known⟩ := routed.declared route
  cases bound.symm.trans owned
  refine ⟨?_, known⟩
  cases parallel : run.isParallel with
  | false => rfl
  | true => exact nomatch (routed.apart parallel).symm.trans route

/-- At most one route is played when the clocks and routes of a tick have started theirs. -/
theorem opened_le (toured : Toured expected start scene world) {id : Nat}
    (few : (scene.scheduler.routesFor id).length ≤ 1) (steady : scene.Steady id world) :
    ((scene.opened world).1.routesFor id).length ≤ 1 := by
  have opens := scene.opened_opens world
  obtain ⟨forks, orderly⟩ := toured.orderly
  have besides : ∀ run ∈ (scene.opened world).1.parallel, run.moving = false := by
    rw [opens.parallel_eq]
    exact toured.besides
  apply length_le_one_of_alike ((opens.orderly orderly).pairwise_routesFor besides id)
  intro first one second two
  rcases opens.routes one with old | ⟨object, present, current⟩
  · rcases opens.routes two with old' | ⟨object, present, current⟩
    · obtain ⟨index, within, rfl⟩ := List.getElem_of_mem (l := scene.scheduler.routesFor id) old
      obtain ⟨index', within', rfl⟩ := List.getElem_of_mem (l := scene.scheduler.routesFor id) old'
      obtain rfl : index = index' := by omega
      rfl
    · exact steady object _ present current first old
  · rcases opens.routes two with old' | ⟨object', present', current'⟩
    · exact (steady object _ present current second old').symm
    · cases present.symm.trans present'
      exact congrArg Reaction.origin (Option.some.inj (current.symm.trans current'))

theorem length_le (toured : Toured expected start scene world) (id : Nat)
    (steady : ∀ scene world, expected scene world → scene.Steady id world) :
    (scene.scheduler.routesFor id).length ≤ 1 := by
  induction toured with
  | loaded scene idle => simp [Scheduler.routesFor, idle]
  | @updated scene world toured fine input ih =>
    have opened := toured.opened_le ih (steady scene world fine)
    have passed := Scheduler.update_countP_le .standard (scene.opened world).1
      (scene.opened world).2 id
    obtain ⟨_, scheduler, _⟩ := scene.update_eq input world
    rw [Scheduler.length_routesFor] at opened ⊢
    rw [scheduler]
    exact Nat.le_trans passed opened
  | @heard scene world toured event ih =>
    have heard := scene.scheduler.listen_countP_eq .standard event id
    rw [Scheduler.length_routesFor] at ih ⊢
    unfold MapScene.listen
    dsimp only
    split
    · rw [(MapScene.heroAction_opens _ world).countP_eq id, heard]
      exact ih
    · rw [heard]
      exact ih

end Toured

/--
The routes that are played for an object are different ones, each the route of a state the object is
declared with. Only if an object changes to a state with another route while one is played for it
can there be more than one.
-/
theorem routes_differ {expected : MapScene → World → Prop} {start world : World} {scene : MapScene}
    (toured : Toured expected start scene world) (id : Nat) :
    (scene.scheduler.routesFor id).Pairwise (fun first second =>
      first.reaction.origin ≠ second.reaction.origin) ∧
    (∀ run ∈ scene.scheduler.routesFor id,
      run.isParallel = false ∧ run.reaction ∈ start.routesOf id) ∧
    (scene.scheduler.routesFor id).length ≤ (start.routesOf id).length ∧
    ((∀ scene world, expected scene world → scene.Steady id world) →
      (scene.scheduler.routesFor id).length ≤ 1) := by
  have apart := toured.apart id
  refine ⟨apart, fun run => toured.declared, ?_, toured.length_le id⟩
  have distinct : ((scene.scheduler.routesFor id).map (·.reaction)).Nodup := by
    apply List.pairwise_map.mpr
    exact apart.imp fun differs same => differs (congrArg Reaction.origin same)
  have known : (scene.scheduler.routesFor id).map (·.reaction) ⊆ start.routesOf id := by
    intro reaction member
    obtain ⟨run, plays, rfl⟩ := List.mem_map.mp member
    exact (toured.declared plays).2
  simpa using (distinct.subperm known).length_le

def firstRound : Reaction :=
  ⟨.route (.placed 1 1) 1, "guard route (state 1)",
    (Tree.single (.changeState .this 2 .replace)).add 0 (.showText none "Left!") (Nat.zero_le _),
    false⟩

def secondRound : Reaction :=
  ⟨.route (.placed 1 1) 2, "guard route (state 2)", .single (.showText none "Right!"), false⟩

def barracks : World :=
  World.insertObject {} (MapObject.create 1 "guard" ⟨0, 0⟩
    { states := [⟨1, false, some firstRound⟩, ⟨2, false, some secondRound⟩] })

def relieved : MapScene × World :=
  let first := (MapScene.update { map := 1 } {} barracks).2
  (first.1.update {} first.2).2

theorem guard_walks_both_rounds :
    (relieved.1.scheduler.routesFor 1).length = 2 ∧ (barracks.routesOf 1).length = 2 ∧
      (relieved.1.scheduler.routesFor 1).Pairwise (fun first second =>
        first.reaction.origin ≠ second.reaction.origin) := by
  have begun : Toured (fun _ _ => True) barracks { map := 1 } barracks := .loaded _ rfl
  have toured : Toured (fun _ _ => True) barracks relieved.1 relieved.2 :=
    (begun.updated trivial {}).updated trivial {}
  obtain ⟨apart, _, _, _⟩ := routes_differ toured 1
  exact ⟨by decide +kernel, by decide +kernel, apart⟩

end TileScript
