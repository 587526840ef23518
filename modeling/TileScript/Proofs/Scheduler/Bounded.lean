import TileScript.Proofs.Run.Nested
import TileScript.Proofs.Scheduler.Invariants

namespace TileScript

structure Run.Limited (run : Run Activity) : Prop where
  lived : Run.Lived maxCallDepth run
  shallow : run.depth ≤ maxCallDepth

theorem Run.Limited.layered {run : Run Activity} (limited : run.Limited) : Run.Layered run :=
  limited.lived.layered limited.shallow

theorem Run.limited_upheld :
    Scheduler.Upheld (.within .inert maxCallDepth) Run.Limited (fun _ => True) where
  ticked run stage limited _ :=
    ⟨⟨limited.lived.tick stage, by rw [Run.Layered.depth_of_tick]; exact limited.shallow⟩, trivial⟩
  heard run event limited :=
    ⟨limited.lived.listen event, by rw [Run.Layered.depth_of_listen]; exact limited.shallow⟩
  forked _ _ _ _ := ⟨.fresh _ rfl rfl, Nat.zero_le _⟩
  started _ _ _ _ _ _ _ := ⟨.fresh _ rfl rfl, Nat.zero_le _⟩
  recast _ _ _ _ _ := trivial
  cleared _ _ := trivial

theorem Run.forks_tick_le (levels : Nat) (run : Run Activity) (stage : Stage) :
    (run.tick (.within .inert levels) stage).2.effects.forks.length ≤
      stage.effects.forks.length + 1 := by
  have outcome := tick_outcome levels run stage
  generalize (run.tick (.within .inert levels) stage).2 = after at outcome ⊢
  cases outcome with
  | deed deed =>
    rw [deed.forks_eq]
    exact Nat.le_succ _
  | fork fork => simp [Effects.fork]
  | report diagnostic => exact Nat.le_succ _

namespace Scheduler

variable {first second : Language Activity} {scheduler : Scheduler Activity} {world : World}

theorem Successive.forks_le {levels : Nat} {goes : Run Activity × Stage → Bool} {first last : Stage}
    {turns : List (Run Activity × Stage)}
    (successive : Successive (.within .inert levels) goes first turns last) :
    last.effects.forks.length ≤ first.effects.forks.length + turns.length := by
  induction successive with
  | done stage => exact Nat.le_refl _
  | @turn stage last turns run rest ih =>
    rw [leftBy_effects] at ih
    dsimp only at ih
    have added := run.forks_tick_le levels stage
    rw [List.length_cons]
    omega

theorem length_parallelTurns (language : Language Activity) (runs : List (Run Activity))
    (stage : Stage) : (parallelTurns language runs stage).length = runs.length := by
  have inOrder := (passParallel_passes language runs stage).1.inOrder
  rw [← List.length_map Prod.fst, inOrder]

/-- A tick has one turn for every run, those included that the reactions fork on theirs. -/
theorem length_turns_le (levels : Nat) (scheduler : Scheduler Activity) (world : World) :
    (scheduler.turns (.within .inert levels) world).length ≤
      2 * scheduler.blocking.length + scheduler.parallel.length := by
  obtain ⟨pass, _⟩ := passBlocking_passes (.within .inert levels) scheduler.blocking ⟨world, {}⟩
  have taken := congrArg List.length pass.inOrder
  rw [List.length_map, List.length_take] at taken
  have forked := pass.successive.forks_le
  rw [List.length_nil, Nat.zero_add] at forked
  unfold turns
  dsimp only
  generalize passBlocking (.within .inert levels) scheduler.blocking ⟨world, {}⟩ = blocked
    at forked ⊢
  cases blocked.2.effects.scene with
  | some request =>
    dsimp only
    omega
  | none =>
    have besides := (commit_opens { scheduler with
      blocking := blocked.1
      blocksHero := scheduler.blocking.any (·.reaction.blocksHero) } blocked.2).parallel_eq
    dsimp only at besides ⊢
    rw [List.length_append, length_parallelTurns, besides, List.length_append, List.length_map]
    omega

theorem passBlocking_congr (runs : List (Run Activity)) (stage : Stage)
    (same : ∀ run ∈ runs, ∀ stage, run.tick first stage = run.tick second stage) :
    passBlocking first runs stage = passBlocking second runs stage := by
  induction runs generalizing stage with
  | nil => rfl
  | cons run rest ih =>
    obtain ⟨here, later⟩ := List.forall_mem_cons.mp same
    rw [passBlocking, passBlocking, here]
    simp only [ih _ later]

theorem passParallel_congr (runs : List (Run Activity)) (stage : Stage)
    (same : ∀ run ∈ runs, ∀ stage, run.tick first stage = run.tick second stage) :
    passParallel first runs stage = passParallel second runs stage := by
  induction runs generalizing stage with
  | nil => rfl
  | cons run rest ih =>
    obtain ⟨here, later⟩ := List.forall_mem_cons.mp same
    rw [passParallel, passParallel, here]
    simp only [ih _ later]

theorem update_settled (sound : Sound Run.Limited (fun _ => True) scheduler world) (more : Nat) :
    scheduler.update (.within .inert (maxCallDepth + more)) world =
      scheduler.update (.within .inert maxCallDepth) world := by
  have same (runs : List (Run Activity)) (limited : ∀ run ∈ runs, run.Limited) :
      ∀ run ∈ runs, ∀ stage, run.tick (.within .inert (maxCallDepth + more)) stage =
        run.tick (.within .inert maxCallDepth) stage := by
    intro run member stage
    exact Run.tick_settled (limited run member).layered (Nat.le_add_left _ _) more stage
  unfold update
  dsimp only
  rw [passBlocking_congr scheduler.blocking _ (same _ fun run member =>
    sound.runs run (List.mem_append_left _ member))]
  generalize passBlocking (.within .inert maxCallDepth) scheduler.blocking ⟨world, {}⟩ = blocked
  cases blocked.2.effects.scene with
  | some request => rfl
  | none =>
    have besides := (commit_opens { scheduler with
      blocking := blocked.1
      blocksHero := scheduler.blocking.any (·.reaction.blocksHero) } blocked.2).parallel_eq
    dsimp only at besides ⊢
    rw [passParallel_congr _ _ (same _ ?_)]
    intro run member
    rw [besides] at member
    rcases List.mem_append.mp member with old | forked
    · exact sound.runs run (List.mem_append_right _ old)
    · obtain ⟨fork, _, rfl⟩ := List.mem_map.mp forked
      exact Run.limited_upheld.forked blocked.2 trivial fork ‹_›

end Scheduler

/--
Every tick ends. Whatever the commands of a tree answer, the loop over their jumps is over after one
round more than there are nodes, and no node is asked twice because its children are done. In the
standard language a tick goes through nine runs at the most, one at each depth, and performs one
command of each at the most; a call at the last depth fails. So a tick of the scheduler has a
bounded number of turns, needs no further levels of the language, and leaves all depths within the
limit.
-/
theorem every_tick_ends :
    (∀ {σ : Type} (language : Language σ) (run : Run σ) (stage : Stage),
      let calls := (run.tickLogged language stage).1
      (∀ cursor flow, Run.followFor language (run.tree.size + 1) run cursor flow stage =
        some (run.follow language cursor flow stage)) ∧
      (Run.returned calls).Nodup ∧
      (∀ node ∈ Run.returned calls, (run.tree.item? node).isSome = true) ∧
      calls.length ≤ run.tree.size + 2) ∧
    (∀ (levels : Nat) (run : Run Activity) (stage : Stage), Run.Lived levels run →
      run.depth ≤ maxCallDepth →
      let descent := Run.descent levels run stage
      descent.map (fun entry => entry.1.depth) = List.range' run.depth descent.length ∧
      (∀ entry ∈ descent, entry.1.depth ≤ maxCallDepth ∧ (Run.performed entry.2).length ≤ 1) ∧
      descent.length ≤ maxCallDepth + 1 ∧
      (maxCallDepth ≤ run.depth + levels → ∀ more,
        run.tick (.within .inert (levels + more)) stage =
          run.tick (.within .inert levels) stage)) ∧
    (∀ (levels : Nat) (run : Run Activity) (stage : Stage) (cursor : Cursor) (id : Nat)
      (parameters : List Operand), run.depth = maxCallDepth → run.cursor = some cursor →
      run.tree.item? cursor.node = some (.callCommon id parameters) → run.state = none →
      run.tick (.within .inert levels) stage =
        run.fail cursor.node (.callCommon id parameters) (.callTooDeep id maxCallDepth) stage) ∧
    (∀ (scheduler : Scheduler Activity) (world : World),
      (∀ run ∈ scheduler.runs, run.Limited) →
      let turns := scheduler.turns .standard world
      let updated := scheduler.update .standard world
      turns.length ≤ 2 * scheduler.blocking.length + scheduler.parallel.length ∧
      (∀ turn ∈ turns, turn.1.Limited) ∧ (∀ run ∈ updated.2.1.runs, run.Limited) ∧
      ∀ more, scheduler.update (.within .inert (maxCallDepth + more)) world = updated) := by
  refine ⟨?_, ?_, ?_, ?_⟩
  · intro σ language run stage
    have brief := Run.tickLogged_brief language run stage
    exact ⟨fun cursor flow => Run.follow_ends language run cursor flow stage, brief.nodup.1,
      brief.nodup.2, brief.bounded⟩
  · intro levels run stage lived shallow
    have layered := lived.layered shallow
    obtain ⟨counted, bounded⟩ := Run.descent_depths layered levels stage
    refine ⟨counted, fun entry member => ?_, Nat.le_trans (Nat.le_add_left _ _) bounded,
      fun enough more => Run.tick_settled layered enough more stage⟩
    exact ⟨Run.descent_shallow layered member, (Run.descent_brief member).performs⟩
  · intro levels run stage cursor id parameters deep located carried idle
    exact Run.call_at_limit deep located carried idle levels stage
  · intro scheduler world limited
    have sound : Scheduler.Sound Run.Limited (fun _ => True) scheduler world := ⟨limited, trivial⟩
    obtain ⟨after, turned, _⟩ := Run.limited_upheld.update sound
    exact ⟨Scheduler.length_turns_le maxCallDepth scheduler world,
      fun turn member => (turned turn member).1, after.runs, Scheduler.update_settled sound⟩

def echo : Reaction := ⟨.common 7, "echo", .single (.callCommon 7 []), false⟩

def canyon : World := { content := some ⟨.ofList [(7, echo)], ∅, {}⟩ }

def shout : Run Activity := Run.start echo {}

theorem echo_fades :
    (Run.descent maxCallDepth shout ⟨canyon, {}⟩).map (fun entry => entry.1.depth) =
      [0, 1, 2, 3, 4, 5, 6, 7, 8] ∧
    (∀ entry ∈ Run.descent maxCallDepth shout ⟨canyon, {}⟩, (Run.performed entry.2).length ≤ 1) ∧
    { shout with depth := 8 }.tick .standard ⟨canyon, {}⟩ =
      { shout with depth := 8 }.fail 1 (.callCommon 7 []) (.callTooDeep 7 8) ⟨canyon, {}⟩ ∧
    (shout.tick .standard ⟨canyon, {}⟩).2.effects.diagnostics.map (·.failure.message) =
      [(Failure.callTooDeep 7 8).message] ∧
    (Scheduler.turns .standard { blocking := [shout] } canyon).length ≤ 2 := by
  obtain ⟨_, descends, refused, scheduled⟩ := every_tick_ends
  have lived : Run.Lived maxCallDepth shout := .fresh _ rfl rfl
  obtain ⟨counted, entries, _⟩ := descends maxCallDepth shout ⟨canyon, {}⟩ lived (by decide)
  have length : (Run.descent maxCallDepth shout ⟨canyon, {}⟩).length = 9 := by decide +kernel
  refine ⟨?_, fun entry member => (entries entry member).2, ?_, by decide +kernel, ?_⟩
  · rw [counted, length]
    rfl
  · exact refused maxCallDepth { shout with depth := 8 } ⟨canyon, {}⟩ (.enter 1) 7 [] rfl rfl rfl
      rfl
  · refine (scheduled { blocking := [shout] } canyon ?_).1
    exact List.forall_mem_singleton.mpr ⟨lived, by decide⟩

end TileScript
