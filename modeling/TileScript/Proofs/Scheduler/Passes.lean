import TileScript.Proofs.Scheduler.Turns

namespace TileScript.Scheduler

variable {σ : Type}

def Unticked (runs : List (Run σ)) : Prop :=
  ∀ run ∈ runs, ∃ reaction trigger moving held,
    run = { Run.start reaction trigger with moving := moving, holdsPause := held }

/-- What a pass asked for, carried out: its forks begin to run beside the reactions, and its events
are delivered one after the other. The reactions they start come behind those there. -/
structure Carried (scheduler : Scheduler σ) (asked : Stage) (after : Scheduler σ × World)
    (started : List (Run σ)) : Prop where
  delivered : after = asked.effects.events.foldl
    (fun state request => (state.1.send state.2 request).2)
    ({ scheduler with
      parallel := scheduler.parallel ++
        asked.effects.forks.map (fun fork => Run.beside fork.reaction fork.trigger fork.node)
      diagnostics := scheduler.diagnostics ++ asked.effects.diagnostics
      notes := scheduler.notes ++ asked.effects.notes }, asked.world)
  blocking : after.1.blocking = scheduler.blocking ++ started
  unticked : Unticked started
  parallel : after.1.parallel = scheduler.parallel ++
    asked.effects.forks.map (fun fork => Run.beside fork.reaction fork.trigger fork.node)

theorem Opens.blocking_eq {allowed : World → Reaction → Trigger → Bool → Prop}
    {before after : Scheduler σ × World} (opens : Opens allowed before after) :
    ∃ started, after.1.blocking = before.1.blocking ++ started ∧ Unticked started := by
  induction opens with
  | refl state =>
    refine ⟨[], (List.append_nil _).symm, ?_⟩
    intro run member
    cases member
  | start reaction trigger moving allows added rest ih =>
    obtain ⟨_, _, held, begun, _⟩ := add?_some added
    obtain ⟨started, grown, unticked⟩ := ih
    rw [begun] at grown
    refine ⟨{ Run.start reaction trigger with moving := moving, holdsPause := held } :: started,
      by simp [grown], ?_⟩
    intro run member
    rcases List.mem_cons.mp member with rfl | later
    · exact ⟨reaction, trigger, moving, held, rfl⟩
    · exact unticked run later
  | touch id change touch rest ih => exact ih

theorem deliverAll_eq_foldl (requests : List EventRequest) (scheduler : Scheduler σ)
    (world : World) :
    deliverAll requests scheduler world =
      requests.foldl (fun state request => (state.1.send state.2 request).2)
        (scheduler, world) := by
  induction requests generalizing scheduler world with
  | nil => rfl
  | cons request rest ih =>
    rw [deliverAll, List.foldl_cons]
    exact ih _ _

theorem commit_carried (scheduler : Scheduler σ) (asked : Stage) :
    ∃ started, Carried scheduler asked (scheduler.commit asked) started := by
  have opens := commit_opens scheduler asked
  obtain ⟨started, grown, unticked⟩ := opens.blocking_eq
  exact ⟨started, deliverAll_eq_foldl _ _ _, grown, unticked, opens.parallel_eq⟩

/--
In one tick the reactions have their turns, and those that finish go. If one of them asks for another
map, nothing but the failures and notes of these turns is kept. Otherwise what they asked for is
carried out, then the runs beside them have their turns, and what these asked for is carried out too.
-/
theorem update_takes_turns (language : Language σ) (scheduler : Scheduler σ) (world : World) :
    ∃ turns last, BlockingPass language scheduler.blocking ⟨world, {}⟩ turns last ∧
      let survived := { scheduler with
        blocking := survivors language (ends language) turns ++
          scheduler.blocking.drop turns.length
        blocksHero := scheduler.blocking.any (·.reaction.blocksHero) }
      (∀ request, last.effects.scene = some request →
        scheduler.update language world =
          (some request, { survived with
            diagnostics := scheduler.diagnostics ++ last.effects.diagnostics
            notes := scheduler.notes ++ last.effects.notes }, last.world)) ∧
      (last.effects.scene = none →
        ∃ committed started besides ended final late,
          Carried survived last committed started ∧
          ParallelPass language committed.1.parallel ⟨committed.2, {}⟩ besides ended ∧
          Carried { committed.1 with parallel := survivors language (moves language) besides }
            ended final late ∧
          scheduler.update language world = (ended.effects.scene, final)) := by
  obtain ⟨pass, kept⟩ := passBlocking_passes language scheduler.blocking ⟨world, {}⟩
  refine ⟨_, _, pass, ?_⟩
  unfold update
  dsimp only
  rw [← kept]
  generalize passBlocking language scheduler.blocking ⟨world, {}⟩ = blocked
  constructor
  · intro request asked
    rw [asked]
    rfl
  · intro unasked
    rw [unasked]
    dsimp only
    obtain ⟨started, carried⟩ := commit_carried { scheduler with
      blocking := blocked.1
      blocksHero := scheduler.blocking.any (·.reaction.blocksHero) } blocked.2
    generalize Scheduler.commit _ blocked.2 = committed at carried ⊢
    obtain ⟨parallel, stay⟩ :=
      passParallel_passes language committed.1.parallel ⟨committed.2, {}⟩
    generalize passParallel language committed.1.parallel ⟨committed.2, {}⟩ = passed
      at parallel stay ⊢
    obtain ⟨late, settled⟩ := commit_carried { committed.1 with parallel := passed.1 } passed.2
    refine ⟨committed, started, _, passed.2, _, late, carried, parallel, ?_, rfl⟩
    rw [← stay]
    exact settled

end TileScript.Scheduler
