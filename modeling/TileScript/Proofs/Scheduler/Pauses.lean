import TileScript.Proofs.World.Cast

namespace TileScript

abbrev World.KeepsPauses (before after : World) : Prop :=
  World.Keeps MapObject.pauseCount before after

open World (KeepsPauses)

namespace Run

variable {σ : Type}

def holds (run : Run σ) (id : Nat) : Bool := run.holdsPause && run.trigger.object == some id

theorem Continues.holds_eq {before after : Run σ} (continues : Continues before after) (id : Nat) :
    after.holds id = before.holds id := by
  obtain ⟨place, state, failed, rfl⟩ := continues
  rfl

theorem tick_keepsPauses (levels : Nat) (run : Run Activity) (stage : Stage) :
    KeepsPauses stage.world (run.tick (.within .inert levels) stage).2.world := by
  have outcome := tick_outcome levels run stage
  generalize (run.tick (.within .inert levels) stage).2 = after at outcome ⊢
  cases outcome with
  | deed deed => exact deed.keeps.map Prod.fst
  | fork | report => exact .refl stage.world

theorem tearDown_idle (run : Run σ) (world : World) (idle : run.holdsPause = false) :
    (run.tearDown world).2 = world := by
  unfold tearDown
  split
  · rfl
  · simp [idle]

theorem object?_tearDown (run : Run σ) (world : World) (live : run.tornDown = false) (id : Nat) :
    (run.tearDown world).2.object? id = (world.object? id).map (fun object =>
      { object with pauseCount := object.pauseCount - if run.holds id then 1 else 0 }) := by
  have same (free : run.holds id = false) : world.object? id = (world.object? id).map (fun object =>
      { object with pauseCount := object.pauseCount - if run.holds id then 1 else 0 }) := by
    rw [free]
    cases world.object? id <;> rfl
  cases held : run.holdsPause with
  | false =>
    rw [tearDown_idle run world held]
    exact same (by simp [holds, held])
  | true =>
    cases bound : run.trigger.object with
    | none =>
      have unchanged : (run.tearDown world).2 = world := by simp [tearDown, live, held, bound]
      rw [unchanged]
      exact same (by simp [holds, bound])
    | some object =>
      have released : (run.tearDown world).2 = world.modifyObject object MapObject.release := by
        simp [tearDown, live, held, bound]
      rw [released, World.object?_modifyObject]
      by_cases named : id = object
      · have holding : run.holds id = true := by simp [holds, held, bound, named]
        rw [if_pos named, holding]
        rfl
      · rw [if_neg named]
        exact same (by simpa [holds, bound] using fun _ => Ne.symm named)

theorem object?_forceFinish (runs : List (Run σ)) (live : ∀ run ∈ runs, run.tornDown = false)
    (world : World) (id : Nat) :
    (runs.foldl (fun world run => (run.forceFinish world).2) world).object? id =
      (world.object? id).map (fun object =>
        { object with pauseCount := object.pauseCount - runs.countP (·.holds id) }) := by
  induction runs generalizing world with
  | nil =>
    rw [List.foldl_nil]
    cases world.object? id <;> rfl
  | cons run runs ih =>
    have torn : ((run.forceFinish world).2).object? id = (world.object? id).map (fun object =>
        { object with pauseCount := object.pauseCount - if run.holds id then 1 else 0 }) :=
      object?_tearDown run.stop world (live run List.mem_cons_self) id
    rw [List.foldl_cons, ih (fun other member => live other (List.mem_cons_of_mem _ member)), torn,
      Option.map_map, List.countP_cons]
    congr 1
    funext object
    simp only [Function.comp_def]
    congr 1
    omega

theorem forceFinish_idle (runs : List (Run σ)) (idle : ∀ run ∈ runs, run.holdsPause = false)
    (world : World) : runs.foldl (fun world run => (run.forceFinish world).2) world = world := by
  induction runs with
  | nil => rfl
  | cons run runs ih =>
    have same : (run.forceFinish world).2 = world :=
      tearDown_idle run.stop world (idle run List.mem_cons_self)
    rw [List.foldl_cons, same]
    exact ih (fun other member => idle other (List.mem_cons_of_mem _ member))

end Run

structure Run.Tidy {σ : Type} (run : Run σ) : Prop where
  live : run.tornDown = false
  route : run.moving = true → run.holdsPause = false

theorem Run.Continues.tidy {σ : Type} {before after : Run σ} (continues : Continues before after)
    (tidy : before.Tidy) : after.Tidy := by
  obtain ⟨place, state, failed, rfl⟩ := continues
  exact ⟨tidy.live, tidy.route⟩

structure Balanced {σ : Type} (runs : List (Run σ)) (world : World) : Prop where
  counted : ∀ id object, world.object? id = some object →
    object.pauseCount = runs.countP (·.holds id)
  tidy : ∀ run ∈ runs, run.Tidy

namespace Balanced

variable {σ : Type} {runs done rest : List (Run σ)} {run after : Run σ} {world next : World}

theorem of_keepsPauses (balanced : Balanced runs world) (keeps : KeepsPauses world next) :
    Balanced runs next := by
  refine ⟨fun id object present => ?_, balanced.tidy⟩
  obtain ⟨earlier, found, same⟩ := keeps id object present
  rw [same, balanced.counted id earlier found]

theorem of_continues (balanced : Balanced (done ++ run :: rest) world)
    (continues : Run.Continues run after) : Balanced (done ++ after :: rest) world := by
  obtain ⟨early, late⟩ := List.forall_mem_append.mp balanced.tidy
  obtain ⟨now, late⟩ := List.forall_mem_cons.mp late
  refine ⟨fun id object present => ?_, List.forall_mem_append.mpr
    ⟨early, List.forall_mem_cons.mpr ⟨continues.tidy now, late⟩⟩⟩
  rw [balanced.counted id object present]
  simp only [List.countP_append, List.countP_cons, continues.holds_eq]

theorem tearDown (balanced : Balanced (done ++ run :: rest) world) :
    Balanced (done ++ rest) (run.tearDown world).2 := by
  obtain ⟨early, late⟩ := List.forall_mem_append.mp balanced.tidy
  obtain ⟨now, late⟩ := List.forall_mem_cons.mp late
  refine ⟨fun id object present => ?_, List.forall_mem_append.mpr ⟨early, late⟩⟩
  rw [Run.object?_tearDown run world now.live] at present
  obtain ⟨earlier, found, rfl⟩ := Option.map_eq_some_iff.mp present
  have held := balanced.counted id earlier found
  simp only [List.countP_append, List.countP_cons] at held ⊢
  omega

theorem map (balanced : Balanced runs world) {change : Run σ → Run σ}
    (continues : ∀ run, Run.Continues run (change run)) : Balanced (runs.map change) world := by
  refine ⟨fun id object present => ?_, List.forall_mem_map.mpr fun run member =>
    (continues run).tidy (balanced.tidy run member)⟩
  have same : (fun run : Run σ => run.holds id) ∘ change = fun run => run.holds id :=
    funext fun run => (continues run).holds_eq id
  rw [balanced.counted id object present, List.countP_map, same]

theorem idle (balanced : Balanced runs world) {reaction : Reaction} {trigger : Trigger}
    {moving : Bool} :
    Balanced (runs ++ [{ Run.start reaction trigger with moving := moving }]) world := by
  refine ⟨fun id object present => ?_, List.forall_mem_append.mpr ⟨balanced.tidy,
    List.forall_mem_singleton.mpr ⟨rfl, fun _ => rfl⟩⟩⟩
  rw [balanced.counted id object present, List.countP_append]
  rfl

/-- A reaction that starts takes its hold. The count stays exact as long as it fits. -/
theorem hold (balanced : Balanced runs world) {reaction : Reaction} {trigger : Trigger} {id : Nat}
    (bound : trigger.object = some id) (few : runs.length + 1 ≤ counterLimit) :
    Balanced (runs ++ [{ Run.start reaction trigger with moving := false, holdsPause := true }])
      (world.modifyObject id MapObject.hold) := by
  refine ⟨fun key object present => ?_, List.forall_mem_append.mpr ⟨balanced.tidy,
    List.forall_mem_singleton.mpr ⟨rfl, fun moving => nomatch moving⟩⟩⟩
  rw [World.object?_modifyObject] at present
  rw [List.countP_append, List.countP_singleton]
  by_cases named : key = id
  · rw [if_pos named] at present
    obtain ⟨earlier, found, rfl⟩ := Option.map_eq_some_iff.mp present
    have holding : Run.holds { Run.start (σ := σ) reaction trigger with
        moving := false, holdsPause := true } key = true := by
      simp [Run.holds, Run.start, bound, named]
    have counted := balanced.counted key earlier found
    have fits : runs.countP (·.holds key) ≤ runs.length := List.countP_le_length
    rw [holding]
    simp only [MapObject.hold, countUp, ↓reduceIte]
    omega
  · rw [if_neg named] at present
    have free : Run.holds { Run.start (σ := σ) reaction trigger with
        moving := false, holdsPause := true } key = false := by
      simpa [Run.holds, Run.start, bound] using Ne.symm named
    rw [free, balanced.counted key object present]
    rfl

end Balanced

namespace Scheduler

variable {σ : Type} {allowed : World → Reaction → Trigger → Bool → Prop}

theorem Opens.length_le {before after : Scheduler σ × World} (opens : Opens allowed before after) :
    before.1.blocking.length ≤ after.1.blocking.length := by
  induction opens with
  | refl state => exact Nat.le_refl _
  | start reaction trigger moving allows added rest ih =>
    obtain ⟨_, _, held, started, _⟩ := add?_some added
    rw [started] at ih
    simp only [List.length_append, List.length_singleton] at ih
    omega
  | touch id change touch rest ih => exact ih

theorem Opens.balanced {before after : Scheduler σ × World} (opens : Opens allowed before after)
    (few : after.1.blocking.length ≤ counterLimit)
    (balanced : Balanced before.1.blocking before.2) :
    Balanced after.1.blocking after.2 := by
  induction opens with
  | refl state => exact balanced
  | start reaction trigger moving allows added rest ih =>
    -- Nothing leaves while reactions are started: a count that fits in the end fits here.
    have fits := rest.length_le
    obtain ⟨_, _, held, started, holds⟩ := add?_some added
    refine ih few ?_
    rw [started] at fits ⊢
    simp only [List.length_append, List.length_singleton] at fits
    rcases holds with ⟨rfl, same⟩ | ⟨rfl, rfl, id, bound, held⟩
    · rw [same]
      exact balanced.idle
    · rw [held]
      exact balanced.hold bound (by omega)
  | touch id change touch rest ih =>
    exact ih few (balanced.of_keepsPauses (.modifyObject _ id fun object => (touch.quiet object).1))

structure Accounted (scheduler : Scheduler σ) (world : World) : Prop where
  balanced : Balanced scheduler.blocking world
  besides : ∀ run ∈ scheduler.parallel, run.holdsPause = false

theorem Opens.accounted {before after : Scheduler σ × World} (opens : Opens allowed before after)
    (few : after.1.blocking.length ≤ counterLimit) (accounted : Accounted before.1 before.2) :
    Accounted after.1 after.2 := by
  refine ⟨opens.balanced few accounted.balanced, ?_⟩
  rw [opens.parallel_eq]
  exact accounted.besides

theorem passBlocking_balanced (levels : Nat) (done rest : List (Run Activity)) (stage : Stage)
    (balanced : Balanced (done ++ rest) stage.world) :
    Balanced (done ++ (passBlocking (.within .inert levels) rest stage).1)
      (passBlocking (.within .inert levels) rest stage).2.world := by
  -- The runs that had their turn are carried along, since the count is over all of them.
  induction rest generalizing done stage with
  | nil => exact balanced
  | cons run rest ih =>
    rw [passBlocking]
    dsimp only
    have ticked := (balanced.of_keepsPauses (run.tick_keepsPauses levels stage)).of_continues
      (run.tick_continues (.within .inert levels) stage)
    generalize run.tick (.within .inert levels) stage = result at ticked ⊢
    cases finished : result.1.isFinished with
    | true =>
      simp only [↓reduceIte, List.nil_append]
      split
      · exact ticked.tearDown
      · exact ih done _ ticked.tearDown
    | false =>
      simp only [Bool.false_eq_true, ↓reduceIte]
      split
      · exact ticked
      · have others := ih (done ++ [result.1]) result.2 (by simpa using ticked)
        simpa using others

theorem passParallel_keepsPauses (levels : Nat) (runs : List (Run Activity)) (stage : Stage)
    (idle : ∀ run ∈ runs, run.holdsPause = false) :
    KeepsPauses stage.world (passParallel (.within .inert levels) runs stage).2.world ∧
      ∀ run ∈ (passParallel (.within .inert levels) runs stage).1, run.holdsPause = false := by
  induction runs generalizing stage with
  | nil => exact ⟨.refl _, fun _ member => nomatch member⟩
  | cons run rest ih =>
    rw [passParallel]
    dsimp only
    have keeps := run.tick_keepsPauses levels stage
    have free : (run.tick (.within .inert levels) stage).1.holdsPause = false := by
      obtain ⟨place, state, failed, ticked⟩ := run.tick_continues (.within .inert levels) stage
      rw [ticked]
      exact idle run List.mem_cons_self
    generalize run.tick (.within .inert levels) stage = result at keeps free ⊢
    rw [result.1.tearDown_idle result.2.world free]
    have same : (if result.1.node? != run.node? then { result.2 with world := result.2.world }
        else result.2) = result.2 := by
      split <;> rfl
    rw [same]
    obtain ⟨others, left⟩ :=
      ih result.2 (fun other member => idle other (List.mem_cons_of_mem _ member))
    refine ⟨keeps.trans others, fun other member => ?_⟩
    split at member
    · exact left other member
    · rcases List.mem_cons.mp member with rfl | member
      · exact free
      · exact left other member

theorem commit_length_le (scheduler : Scheduler σ) (stage : Stage) :
    scheduler.blocking.length ≤ (scheduler.commit stage).1.blocking.length :=
  (commit_opens scheduler stage).length_le

theorem commit_accounted {scheduler : Scheduler σ} {stage : Stage}
    (accounted : Accounted scheduler stage.world)
    (few : (scheduler.commit stage).1.blocking.length ≤ counterLimit) :
    Accounted (scheduler.commit stage).1 (scheduler.commit stage).2 := by
  refine (commit_opens scheduler stage).accounted few
    ⟨accounted.balanced, fun run member => ?_⟩
  rcases List.mem_append.mp member with early | late
  · exact accounted.besides run early
  · obtain ⟨fork, _, rfl⟩ := List.mem_map.mp late
    rfl

theorem update_accounted (levels : Nat) {scheduler : Scheduler Activity} {world : World}
    (accounted : Accounted scheduler world)
    (few : (scheduler.update (.within .inert levels) world).2.1.blocking.length ≤ counterLimit) :
    Accounted (scheduler.update (.within .inert levels) world).2.1
      (scheduler.update (.within .inert levels) world).2.2 := by
  have passed := passBlocking_balanced levels [] scheduler.blocking ⟨world, {}⟩ accounted.balanced
  unfold update at few ⊢
  dsimp only at few ⊢
  generalize passBlocking (.within .inert levels) scheduler.blocking ⟨world, {}⟩ = blocked at *
  have survived (blocksHero : Bool) : Accounted
      { scheduler with blocksHero := blocksHero, blocking := blocked.1 } blocked.2.world :=
    ⟨passed, accounted.besides⟩
  split at few
  · exact ⟨passed, accounted.besides⟩
  · -- From here on reactions only come, so the bound at the end holds for both commits.
    have fits := Nat.le_trans (commit_length_le _ _) few
    have committed := commit_accounted (survived _) fits
    obtain ⟨keeps, idle⟩ := passParallel_keepsPauses levels _ ⟨_, {}⟩ committed.besides
    exact commit_accounted ⟨committed.balanced.of_keepsPauses keeps, idle⟩ few

theorem listen_accounted (language : Language σ) {scheduler : Scheduler σ} {world : World}
    (accounted : Accounted scheduler world) (event : InputEvent) :
    Accounted (scheduler.listen language event) world := by
  refine ⟨?_, fun run member => ?_⟩
  · simp only [listen, List.map_map]
    exact accounted.balanced.map (fun run => run.listen_continues language event)
  · simp only [listen, List.map_map] at member
    obtain ⟨before, known, rfl⟩ := List.mem_map.mp member
    obtain ⟨place, state, failed, heard⟩ := before.listen_continues language event
    simp only [Function.comp_def, heard]
    exact accounted.besides before known

theorem object?_close {scheduler : Scheduler σ} {world : World}
    (accounted : Accounted scheduler world) (id : Nat) :
    (scheduler.close world).2.object? id =
      (world.object? id).map (fun object => { object with pauseCount := 0 }) := by
  have blocking := Run.object?_forceFinish scheduler.blocking
    (fun run member => (accounted.balanced.tidy run member).live) world id
  unfold close runs
  rw [List.foldl_append, Run.forceFinish_idle scheduler.parallel accounted.besides, blocking]
  cases present : world.object? id with
  | none => rfl
  | some object =>
    rw [Option.map_some, Option.map_some, accounted.balanced.counted id object present,
      Nat.sub_self]

end Scheduler

end TileScript
