import TileScript.Proofs.World.Ground

namespace TileScript

open World (Keeps SameGround)

namespace Scheduler

variable {σ : Type}

/-- Something said of every run and of the stage that no tick of a run spoils. -/
structure Upheld (language : Language σ) (fits : Run σ → Prop) (holds : Stage → Prop) : Prop where
  ticked : ∀ run stage, fits run → holds stage →
    fits (run.tick language stage).1 ∧ holds (run.tick language stage).2
  heard : ∀ run event, fits run → fits (run.listen language event).1
  forked : ∀ stage, holds stage → ∀ fork ∈ stage.effects.forks,
    fits (Run.beside fork.reaction fork.trigger fork.node)
  started : ∀ stage reaction trigger moving held, holds stage →
    stage.world.Declares reaction trigger moving →
    fits { Run.start reaction trigger with moving := moving, holdsPause := held }
  recast : ∀ stage world, holds stage → SameGround stage.world world →
    Keeps MapObject.states stage.world world → holds { stage with world := world }
  cleared : ∀ stage, holds stage → holds ⟨stage.world, {}⟩

structure Sound (fits : Run σ → Prop) (holds : Stage → Prop) (scheduler : Scheduler σ)
    (world : World) : Prop where
  runs : ∀ run ∈ scheduler.runs, fits run
  stage : holds ⟨world, {}⟩

namespace Upheld

variable {language : Language σ} {fits : Run σ → Prop} {holds : Stage → Prop}
  (upheld : Upheld language fits holds)

include upheld

theorem leftBy {goes : Run σ × Stage → Bool} {turn : Run σ × Stage} (run : fits turn.1)
    (stage : holds turn.2) : holds (leftBy language goes turn) := by
  have ticked := (upheld.ticked turn.1 turn.2 run stage).2
  unfold Scheduler.leftBy
  dsimp only
  split
  · exact upheld.recast _ _ ticked (Run.tearDown_sameGround _ _)
      (Run.tearDown_view (fun _ => rfl) _ _)
  · exact ticked

theorem successive {goes : Run σ × Stage → Bool} {first last : Stage}
    {turns : List (Run σ × Stage)} (successive : Successive language goes first turns last)
    (runs : ∀ run ∈ turns.map Prod.fst, fits run) (stage : holds first) :
    (∀ turn ∈ turns, fits turn.1 ∧ holds turn.2) ∧
      (∀ run ∈ survivors language goes turns, fits run) ∧ holds last := by
  induction successive with
  | done stage => simpa [survivors] using stage
  | @turn first last turns run rest ih =>
    obtain ⟨here, later⟩ := List.forall_mem_cons.mp runs
    obtain ⟨others, stay, final⟩ := ih later (upheld.leftBy here stage)
    refine ⟨List.forall_mem_cons.mpr ⟨⟨here, stage⟩, others⟩, ?_, final⟩
    rw [survivors_cons]
    refine List.forall_mem_append.mpr ⟨?_, stay⟩
    split
    · simp
    · simpa using (upheld.ticked run first here stage).1

theorem opens {before after : Scheduler σ × World} (opens : Opens World.Declares before after)
    (sound : Sound fits holds before.1 before.2) : Sound fits holds after.1 after.2 := by
  induction opens with
  | refl state => exact sound
  | @start state _ _ reaction trigger moving declares added rest ih =>
    apply ih
    obtain ⟨_, _, held, begun, same⟩ := add?_some added
    have fresh := upheld.started _ reaction trigger moving held sound.stage declares
    constructor
    · intro run member
      simp only [runs, begun, List.mem_append, List.mem_singleton] at member
      rcases member with (old | rfl) | beside
      · exact sound.runs run (List.mem_append_left _ old)
      · exact fresh
      · exact sound.runs run (List.mem_append_right _ beside)
    · rcases same with ⟨_, same⟩ | ⟨_, _, id, _, same⟩
      · rw [same]
        exact sound.stage
      · rw [same]
        refine upheld.recast ⟨state.2, {}⟩ _ sound.stage ?_ ?_
        · exact .modifyObject state.2 id (fun _ => rfl) (fun _ => rfl)
        · exact .modifyObject state.2 id (fun _ => rfl)
  | @touch state _ id change touch rest ih =>
    apply ih
    refine ⟨sound.runs, upheld.recast ⟨state.2, {}⟩ _ sound.stage (touch.sameGround state.2 id) ?_⟩
    exact .modifyObject state.2 id fun object => (touch.quiet object).2.2.1

theorem commit (scheduler : Scheduler σ) (asked : Stage) (runs : ∀ run ∈ scheduler.runs, fits run)
    (stage : holds asked) :
    Sound fits holds (scheduler.commit asked).1 (scheduler.commit asked).2 := by
  refine upheld.opens ((commit_opens scheduler asked).mono .inl) ⟨?_, upheld.cleared asked stage⟩
  intro run member
  simp only [Scheduler.runs, collect, List.mem_append, List.mem_map] at member
  rcases member with blocking | parallel | ⟨fork, asks, rfl⟩
  · exact runs run (List.mem_append_left _ blocking)
  · exact runs run (List.mem_append_right _ parallel)
  · exact upheld.forked asked stage fork asks

/-- A tick of the scheduler keeps what its turns keep, and asks for nothing that no turn asked for. -/
theorem update {scheduler : Scheduler σ} {world : World}
    (sound : Sound fits holds scheduler world) :
    let passed := scheduler.update language world
    Sound fits holds passed.2.1 passed.2.2 ∧
      (∀ turn ∈ scheduler.turns language world, fits turn.1 ∧ holds turn.2) ∧
      ∀ request, passed.1 = some request →
        ∃ stage, holds stage ∧ stage.effects.scene = some request := by
  obtain ⟨pass, kept⟩ := passBlocking_passes language scheduler.blocking ⟨world, {}⟩
  have running : ∀ run ∈ scheduler.blocking, fits run := by
    intro run member
    exact sound.runs run (List.mem_append_left _ member)
  have besides : ∀ run ∈ scheduler.parallel, fits run := by
    intro run member
    exact sound.runs run (List.mem_append_right _ member)
  obtain ⟨turned, stay, held⟩ := upheld.successive pass.successive (by
    intro run member
    rw [pass.inOrder] at member
    exact running run (List.mem_of_mem_take member)) sound.stage
  have survive : ∀ run ∈ (passBlocking language scheduler.blocking ⟨world, {}⟩).1, fits run := by
    intro run member
    rw [kept] at member
    rcases List.mem_append.mp member with old | later
    · exact stay run old
    · exact running run (List.mem_of_mem_drop later)
  unfold Scheduler.update turns
  dsimp only
  generalize passBlocking language scheduler.blocking ⟨world, {}⟩ = blocked at held survive ⊢
  cases asked : blocked.2.effects.scene with
  | some request =>
    refine ⟨⟨List.forall_mem_append.mpr ⟨survive, besides⟩, upheld.cleared _ held⟩, turned, ?_⟩
    rintro _ ⟨⟩
    exact ⟨blocked.2, held, asked⟩
  | none =>
    dsimp only
    have committed := upheld.commit { scheduler with
        blocking := blocked.1
        blocksHero := scheduler.blocking.any (·.reaction.blocksHero) } blocked.2
      (List.forall_mem_append.mpr ⟨survive, besides⟩) held
    generalize Scheduler.commit _ blocked.2 = carried at committed ⊢
    obtain ⟨parallel, left⟩ :=
      passParallel_passes language carried.1.parallel ⟨carried.2, {}⟩
    obtain ⟨later, remain, final⟩ := upheld.successive parallel.successive (by
      intro run member
      rw [parallel.inOrder] at member
      exact committed.runs run (List.mem_append_right _ member)) committed.stage
    rw [← left] at remain
    refine ⟨upheld.commit _ _ ?_ final, List.forall_mem_append.mpr ⟨turned, later⟩, ?_⟩
    · refine List.forall_mem_append.mpr ⟨fun run member => ?_, remain⟩
      exact committed.runs run (List.mem_append_left _ member)
    · intro request asks
      exact ⟨_, final, asks⟩

theorem listen {scheduler : Scheduler σ} {world : World}
    (sound : Sound fits holds scheduler world) (event : InputEvent) :
    Sound fits holds (scheduler.listen language event) world := by
  refine ⟨?_, sound.stage⟩
  intro run member
  simp only [Scheduler.runs, Scheduler.listen, List.map_map, List.mem_append, List.mem_map] at member
  rcases member with ⟨before, known, rfl⟩ | ⟨before, known, rfl⟩
  · exact upheld.heard before event (sound.runs before (List.mem_append_left _ known))
  · exact upheld.heard before event (sound.runs before (List.mem_append_right _ known))

end Upheld

/-- Something said of the world that nothing spoils between the turns of the runs: no run that gives
back its hold, and no fork or event that is carried out. -/
structure Lasting (holds : World → Prop) : Prop where
  torn : ∀ (run : Run Activity) world, holds world → holds (run.tearDown world).2
  committed : ∀ (scheduler : Scheduler Activity) stage, holds stage.world →
    holds (scheduler.commit stage).2

namespace Lasting

variable {language : Language Activity} {holds : World → Prop} (lasting : Lasting holds)

include lasting

theorem successive {goes : Run Activity × Stage → Bool} {first last : Stage}
    {turns : List (Run Activity × Stage)} (successive : Successive language goes first turns last)
    (ticked : ∀ turn ∈ turns, holds turn.2.world → holds (turn.1.tick language turn.2).2.world)
    (begun : holds first.world) : holds last.world := by
  induction successive with
  | done stage => exact begun
  | @turn stage last turns run rest ih =>
    obtain ⟨here, later⟩ := List.forall_mem_cons.mp ticked
    refine ih later ?_
    unfold leftBy
    dsimp only
    split
    · exact lasting.torn _ _ (here begun)
    · exact here begun

/-- A tick of the scheduler keeps it if each of its turns does. -/
theorem update (scheduler : Scheduler Activity) (world : World)
    (ticked : ∀ turn ∈ scheduler.turns language world, holds turn.2.world →
      holds (turn.1.tick language turn.2).2.world)
    (begun : holds world) : holds (scheduler.update language world).2.2 := by
  obtain ⟨pass, _⟩ := passBlocking_passes language scheduler.blocking ⟨world, {}⟩
  unfold Scheduler.update
  unfold turns at ticked
  dsimp only at ticked ⊢
  have blocked : holds (passBlocking language scheduler.blocking ⟨world, {}⟩).2.world := by
    refine lasting.successive pass.successive (fun turn member => ticked turn ?_) begun
    split
    · exact member
    · exact List.mem_append_left _ member
  generalize passBlocking language scheduler.blocking ⟨world, {}⟩ = passed at ticked blocked ⊢
  cases asked : passed.2.effects.scene with
  | some request => exact blocked
  | none =>
    simp only [asked] at ticked ⊢
    refine lasting.committed _ _ ?_
    refine lasting.successive (passParallel_passes _ _ _).1.successive (fun turn member => ?_) ?_
    · exact ticked turn (List.mem_append_right _ member)
    · exact lasting.committed _ _ blocked

end Lasting

end Scheduler

namespace MapScene

open Scheduler (Upheld Sound)

theorem update_eq (scene : MapScene) (input : InputSnapshot) (world : World) :
    let passed := (scene.opened world).1.update .standard (scene.opened world).2
    (scene.update input world).1 = passed.1 ∧
      (scene.update input world).2.1.scheduler =
        { passed.2.1 with diagnostics := [], notes := [] } ∧
      ∃ moved, (moved = passed.2.2 ∨ moved = (moveHero scene.stepCooldown input passed.2.2).2) ∧
        (scene.update input world).2.2 = moved.endFrame := by
  unfold update opened
  dsimp only
  split
  · rename_i request asked
    exact ⟨asked.symm, rfl, _, .inl rfl, rfl⟩
  · rename_i unasked
    split
    · exact ⟨unasked.symm, rfl, _, .inl rfl, rfl⟩
    · exact ⟨unasked.symm, rfl, _, .inr rfl, rfl⟩

/-- A tick of the map keeps what lasts between the turns if each turn and the hero's step keep it. -/
theorem update_lasting {holds : World → Prop} (lasting : Scheduler.Lasting holds) (scene : MapScene)
    (input : InputSnapshot) (world : World)
    (ticked : ∀ turn ∈ (scene.opened world).1.turns .standard (scene.opened world).2,
      holds turn.2.world → holds (turn.1.tick .standard turn.2).2.world)
    (walked : ∀ cooldown world, holds world → holds (moveHero cooldown input world).2)
    (ended : ∀ world, holds world → holds world.endFrame) (begun : holds (scene.opened world).2) :
    holds (scene.update input world).2.2 := by
  obtain ⟨_, _, moved, moves, after⟩ := scene.update_eq input world
  have passed := lasting.update (scene.opened world).1 (scene.opened world).2 ticked begun
  rw [after]
  refine ended moved ?_
  rcases moves with rfl | rfl
  · exact passed
  · exact walked _ _ passed

variable {fits : Run Activity → Prop} {holds : Stage → Prop} {scene : MapScene} {world : World}

theorem update_sound (upheld : Upheld .standard fits holds)
    (sound : Sound fits holds scene.scheduler world) (input : InputSnapshot) :
    let updated := scene.update input world
    Sound fits holds updated.2.1.scheduler updated.2.2 ∧
      (∀ turn ∈ (scene.opened world).1.turns .standard (scene.opened world).2,
        fits turn.1 ∧ holds turn.2) ∧
      ∀ request, updated.1 = some request →
        ∃ stage, holds stage ∧ stage.effects.scene = some request := by
  have opened := upheld.opens (scene.opened_opens world) sound
  obtain ⟨passed, turned, asks⟩ := upheld.update opened
  obtain ⟨answer, scheduler, moved, moves, after⟩ := scene.update_eq input world
  dsimp only at passed ⊢
  rw [answer, scheduler, after]
  refine ⟨⟨passed.runs, ?_⟩, turned, asks⟩
  apply upheld.recast ⟨_, {}⟩ _ passed.stage
  · refine SameGround.trans ?_ (.endFrame moved)
    rcases moves with rfl | rfl
    · exact .refl _
    · exact moveHero_sameGround _ _ _
  · refine Keeps.trans ?_ (.endFrame moved fun _ => rfl)
    rcases moves with rfl | rfl
    · exact .refl _
    · exact moveHero_view (fun _ _ _ => rfl) _ _ _

theorem listen_sound (upheld : Upheld .standard fits holds)
    (sound : Sound fits holds scene.scheduler world) (event : InputEvent) :
    Sound fits holds (scene.listen event world).1.scheduler (scene.listen event world).2 := by
  have heard := upheld.listen sound event
  unfold listen
  dsimp only
  split
  · exact upheld.opens ((heroAction_opens _ world).mono .inl) heard
  · exact heard

end MapScene

end TileScript
