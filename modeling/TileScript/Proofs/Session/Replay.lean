import TileScript.Proofs.Session.Diagnostics
import TileScript.Session.Clock

namespace TileScript

structure Replay where
  stack : SceneStack
  input : InputCollector := {}
  ticksRun : Nat := 0
  diagnostics : List Diagnostic := []

namespace Replay

def start (content : Database) (map : Nat) : Replay where
  stack := SceneStack.push { content := some content } (.map { map := map })

def arrive (script : List ScriptedInput) (replay : Replay) : InputCollector :=
  (script.filter (fun entry => entry.tick = replay.ticksRun)).foldl
    (fun input entry => input.push entry.event) replay.input

def played (script : List ScriptedInput) (replay : Replay) : Replay :=
  let drained := (replay.arrive script).drain
  let taken := ((drained.1.foldl SceneStack.listen replay.stack).update drained.2.1).takeDiagnostics
  { stack := taken.2
    input := drained.2.2
    ticksRun := replay.ticksRun + 1
    diagnostics := replay.diagnostics ++ taken.1 }

def tick (script : List ScriptedInput) (replay : Replay) : Bool × Replay :=
  let drained := (replay.arrive script).drain
  if drained.2.1.quitRequested then (true, { replay with input := drained.2.2 })
  else ((replay.played script).stack.layers.isEmpty, replay.played script)

def run (script : List ScriptedInput) : Nat → Replay → Replay
  | 0, replay => replay
  | left + 1, replay =>
    match replay.tick script with
    | (true, last) => last
    | (false, after) => after.run script left

def summary (replay : Replay) (metrics : Metrics) : Summary where
  ticksRun := replay.ticksRun
  finalScene := replay.stack.topName?
  vars := replay.stack.popAll.vars
  diagnostics := replay.diagnostics
  hud := replay.stack.draw
  metrics := metrics

end Replay

section Script

variable {script entries : List ScriptedInput} {tick : Nat}

def byTick (script : List ScriptedInput) : List ScriptedInput :=
  script.mergeSort (fun left right => left.tick ≤ right.tick)

def due (script : List ScriptedInput) (tick : Nat) : List ScriptedInput :=
  (byTick script).filter (fun entry => tick ≤ entry.tick)

theorem pairwise_byTick (script : List ScriptedInput) :
    (byTick script).Pairwise (fun left right => left.tick ≤ right.tick) := by
  have sorted : (byTick script).Pairwise
      (fun left right => decide (left.tick ≤ right.tick) = true) :=
    List.pairwise_mergeSort (fun first second third => by simpa using Nat.le_trans)
      (fun left right => by simpa using Nat.le_total left.tick right.tick) script
  simpa using sorted

/-- Input of the same tick keeps its order. -/
theorem filter_byTick (script : List ScriptedInput) (tick : Nat) :
    (byTick script).filter (fun entry => entry.tick = tick) =
      script.filter (fun entry => entry.tick = tick) := by
  let same (entry : ScriptedInput) : Bool := entry.tick = tick
  change (byTick script).filter same = script.filter same
  have level : (script.filter same).Pairwise
      (fun left right => decide (left.tick ≤ right.tick) = true) := by
    refine List.pairwise_of_forall_mem_list fun left here right there => ?_
    have first := (List.mem_filter.mp here).2
    have second := (List.mem_filter.mp there).2
    simp only [same, decide_eq_true_eq] at first second ⊢
    omega
  have kept : (script.filter same).Sublist (byTick script) :=
    List.sublist_mergeSort (fun first second third => by simpa using Nat.le_trans)
      (fun left right => by simpa using Nat.le_total left.tick right.tick) level
      List.filter_sublist
  have within := kept.filter same
  rw [List.filter_filter] at within
  simp only [Bool.and_self] at within
  exact (within.eq_of_length ((List.mergeSort_perm script _).filter same).length_eq.symm).symm

theorem split_sorted (sorted : entries.Pairwise (fun left right => left.tick ≤ right.tick))
    (coming : ∀ entry ∈ entries, tick ≤ entry.tick) :
    entries.takeWhile (fun entry => entry.tick ≤ tick) =
        entries.filter (fun entry => entry.tick = tick) ∧
      entries.dropWhile (fun entry => entry.tick ≤ tick) =
        entries.filter (fun entry => tick + 1 ≤ entry.tick) := by
  induction entries with
  | nil => exact ⟨rfl, rfl⟩
  | cons first rest ih =>
    obtain ⟨least, sorted⟩ := List.pairwise_cons.mp sorted
    obtain ⟨here, coming⟩ := List.forall_mem_cons.mp coming
    by_cases arrives : first.tick ≤ tick
    · obtain ⟨taken, dropped⟩ := ih sorted coming
      have now : first.tick = tick := by omega
      simp [now, taken, dropped]
    · have later : ∀ entry ∈ first :: rest, tick + 1 ≤ entry.tick := by
        refine List.forall_mem_cons.mpr ⟨by omega, fun entry member => ?_⟩
        have := least entry member
        omega
      constructor
      · rw [List.takeWhile_cons_of_neg (by simpa using arrives)]
        refine (List.filter_eq_nil_iff.mpr fun entry member => ?_).symm
        have := later entry member
        simp only [decide_eq_true_eq]
        omega
      · rw [List.dropWhile_cons_of_neg (by simpa using arrives)]
        exact (List.filter_eq_self.mpr fun entry member => by simpa using later entry member).symm

theorem split_due (script : List ScriptedInput) (tick : Nat) :
    (due script tick).takeWhile (fun entry => entry.tick ≤ tick) =
        script.filter (fun entry => entry.tick = tick) ∧
      (due script tick).dropWhile (fun entry => entry.tick ≤ tick) = due script (tick + 1) := by
  have sorted := (pairwise_byTick script).filter (fun entry => tick ≤ entry.tick)
  obtain ⟨taken, dropped⟩ := split_sorted sorted fun entry member => by
    simpa using (List.mem_filter.mp member).2
  rw [← filter_byTick script tick]
  refine ⟨taken.trans ?_, dropped.trans ?_⟩
  · rw [List.filter_filter]
    refine List.filter_congr fun entry _ => ?_
    rw [← Bool.decide_and, decide_eq_decide]
    omega
  · rw [due, List.filter_filter]
    refine List.filter_congr fun entry _ => ?_
    rw [← Bool.decide_and, decide_eq_decide]
    omega

end Script

structure Shows (session : Session) (replay : Replay) : Prop where
  stack : session.stack = replay.stack
  input : session.input = replay.input
  ticksRun : session.ticksRun = replay.ticksRun
  diagnostics : session.diagnostics.toList = replay.diagnostics

structure Mirrors (script : List ScriptedInput) (session : Session) (replay : Replay) : Prop
    extends Shows session replay where
  script : session.script = due script session.ticksRun

namespace Mirrors

variable {script : List ScriptedInput} {session : Session} {replay : Replay} {limit : Nat}

theorem start (content : Database) (config : SessionConfig) :
    Mirrors config.script (Session.start content config)
      (Replay.start content config.startMap) where
  stack := rfl
  input := rfl
  ticksRun := rfl
  diagnostics := rfl
  script := (List.filter_eq_self.mpr fun _ _ => by simp [Session.start]).symm

theorem publish (mirrors : Mirrors script session replay) :
    Mirrors script session.publish replay :=
  ⟨⟨mirrors.stack, mirrors.input, mirrors.ticksRun, mirrors.diagnostics⟩, mirrors.script⟩

theorem feed (mirrors : Mirrors script session replay) :
    session.feed.input = replay.arrive script ∧
      session.feed.script = due script (session.ticksRun + 1) := by
  obtain ⟨taken, dropped⟩ := split_due script session.ticksRun
  rw [← mirrors.script] at taken dropped
  refine ⟨?_, dropped⟩
  rw [Replay.arrive, ← mirrors.ticksRun, ← mirrors.input, ← taken]
  rfl

theorem played (mirrors : Mirrors script session replay) :
    Mirrors script session.played (replay.played script) := by
  obtain ⟨input, coming⟩ := mirrors.feed
  have drained := congrArg InputCollector.drain input
  have taken : (((session.feed.input.drain.1.foldl SceneStack.listen session.stack).update
      session.feed.input.drain.2.1).takeDiagnostics) =
      ((((replay.arrive script).drain.1.foldl SceneStack.listen replay.stack).update
        (replay.arrive script).drain.2.1).takeDiagnostics) := by
    rw [drained, mirrors.stack]
  refine ⟨⟨congrArg Prod.snd taken, ?_, ?_, ?_⟩, coming⟩
  · exact congrArg (fun drained => drained.2.2) drained
  · exact congrArg (· + 1) mirrors.ticksRun
  · have appended : session.played.diagnostics.toList = session.diagnostics.toList ++ _ :=
      Array.toList_appendList
    rw [appended, mirrors.diagnostics]
    exact congrArg (fun taken => replay.diagnostics ++ taken.1) taken

/-- A tick of a session that is below its limit is a tick of the replay. -/
theorem tick (mirrors : Mirrors script session replay) (below : session.ticksRun < limit) :
    (∃ after last, session.tick limit = .ended after ∧ replay.tick script = (true, last) ∧
      Shows after last) ∨
    (∃ after next, session.tick limit = .going after ∧ replay.tick script = (false, next) ∧
      Mirrors script after next) := by
  have drained := congrArg InputCollector.drain mirrors.feed.1
  have same : session.quits = (replay.arrive script).drain.2.1.quitRequested :=
    congrArg (fun drained => drained.2.1.quitRequested) drained
  rw [Session.tick_eq, if_neg (Nat.not_le_of_lt below), Replay.tick, same]
  by_cases quits : (replay.arrive script).drain.2.1.quitRequested = true
  · simp only [if_pos quits]
    exact .inl ⟨_, _, rfl, rfl, mirrors.stack, congrArg (fun drained => drained.2.2) drained,
      mirrors.ticksRun, mirrors.diagnostics⟩
  · simp only [if_neg quits]
    have played := mirrors.played
    rw [played.stack]
    cases empty : (replay.played script).stack.layers.isEmpty with
    | true => exact .inl ⟨_, _, rfl, rfl, played.toShows⟩
    | false => exact .inr ⟨_, _, rfl, rfl, played⟩

/-- Up to its limit a session goes the way of the replay, however many ticks a frame has. -/
theorem runFrame (mirrors : Mirrors script session replay) (limit count : Nat) :
    (∃ after, session.runFrame limit count = .ended after ∧
      Shows after (replay.run script (limit - session.ticksRun))) ∨
    (∃ after next, session.runFrame limit count = .going after ∧ Mirrors script after next ∧
      replay.run script (limit - session.ticksRun) =
        next.run script (limit - after.ticksRun)) := by
  induction count generalizing session replay with
  | zero => exact .inr ⟨session, replay, rfl, mirrors, rfl⟩
  | succ count ih =>
    by_cases below : session.ticksRun < limit
    · obtain ⟨left, split⟩ : ∃ left, limit - session.ticksRun = left + 1 :=
        ⟨limit - session.ticksRun - 1, by omega⟩
      rw [split, Session.runFrame, Replay.run]
      rcases mirrors.tick below with ⟨after, last, ended, stops, shows⟩ |
        ⟨after, next, going, goes, onward⟩
      · rw [ended, stops]
        exact .inl ⟨after, rfl, shows⟩
      · have counted := (Session.tick_going going).2
        have rest : left = limit - after.ticksRun := by omega
        rw [going, goes, rest]
        exact ih onward
    · have spent : limit - session.ticksRun = 0 := by omega
      rw [Session.runFrame, Session.tick_eq, if_pos (Nat.le_of_not_lt below), spent]
      exact .inl ⟨session, rfl, mirrors.toShows⟩

theorem runFrames (mirrors : Mirrors script session replay) (limit ticksPerFrame : Nat) :
    Shows (session.runFrames limit ticksPerFrame)
      (replay.run script (limit - session.ticksRun)) := by
  induction left : limit - session.ticksRun using Nat.strongRecOn generalizing session replay with
  | ind left ih =>
    subst left
    rw [Session.runFrames]
    rcases mirrors.runFrame limit (ticksPerFrame - 1 + 1) with
      ⟨after, ended, shows⟩ | ⟨after, next, going, onward, rest⟩
    · split
      · rename_i last stopped
        cases ended.symm.trans stopped
        exact shows
      · rename_i goes
        cases ended.symm.trans goes
    · split
      · rename_i stopped
        cases going.symm.trans stopped
      · rename_i middle goes
        cases going.symm.trans goes
        have moved := Session.runFrame_going going
        rw [rest]
        exact ih (limit - after.ticksRun) (by omega) onward.publish rfl

theorem runClock {config : SessionConfig} (headless : config.realtime = false)
    (limited : config.limit? = some limit) (mirrors : Mirrors script session replay) (pace : Pace)
    (spare : Nat) (clock : List Nat) (long : limit - session.ticksRun < clock.length) :
    ∃ after, session.runClock config pace spare clock = some after ∧
      Shows after (replay.run script (limit - session.ticksRun)) := by
  induction clock generalizing spare session replay with
  | nil => exact absurd long (Nat.not_lt_zero _)
  | cons elapsed clock ih =>
    have plan :
        config.planFrame pace spare elapsed = ⟨max 1 config.maxTicksPerFrame, spare, 0⟩ := by
      simp [SessionConfig.planFrame, headless]
    obtain ⟨count, positive⟩ : ∃ count, max 1 config.maxTicksPerFrame = count + 1 :=
      ⟨max 1 config.maxTicksPerFrame - 1, by omega⟩
    rw [Session.runClock]
    simp only [plan, limited, Option.getD_some, positive]
    rcases mirrors.runFrame limit (count + 1) with
      ⟨after, ended, shows⟩ | ⟨after, next, going, onward, rest⟩
    · rw [ended]
      exact ⟨after, rfl, shows⟩
    · have moved := Session.runFrame_going going
      have shorter : limit - after.ticksRun < clock.length := by
        rw [List.length_cons] at long
        omega
      rw [going, rest]
      exact ih onward.publish spare shorter

end Mirrors

theorem Shows.summary_eq {session : Session} {replay : Replay} (shows : Shows session replay) :
    session.summary = replay.summary session.published := by
  rw [Session.summary, Replay.summary, shows.ticksRun, shows.stack, shows.diagnostics]

theorem Replay.run_congr {script other : List ScriptedInput}
    (same : ∀ tick, other.filter (fun entry => entry.tick = tick) =
      script.filter (fun entry => entry.tick = tick)) (left : Nat) (replay : Replay) :
    replay.run other left = replay.run script left := by
  have arrive (replay : Replay) : replay.arrive other = replay.arrive script := by
    rw [Replay.arrive, same, Replay.arrive]
  have tick (replay : Replay) : replay.tick other = replay.tick script := by
    simp only [Replay.tick, Replay.played, arrive]
  induction left generalizing replay with
  | zero => rfl
  | succ left ih => simp only [Replay.run, tick, ih]

namespace Session

variable {config : SessionConfig}

theorem limit?_of_headless (headless : config.realtime = false) :
    config.limit? = some (config.maxTicks.getD defaultMaxTicks) := by
  unfold SessionConfig.limit?
  rw [headless]
  cases config.maxTicks <;> rfl

/-- A frame has at least one tick. -/
theorem runFrames_zero (limit : Nat) (session : Session) :
    session.runFrames limit 0 = session.runFrames limit 1 := by
  fun_induction runFrames limit 0 session with
  | case1 session after ended =>
    rw [runFrames]
    split
    · rename_i stopped
      cases ended.symm.trans stopped
      rfl
    · rename_i goes
      cases ended.symm.trans goes
  | case2 session after going ih =>
    rw [ih, eq_comm, runFrames]
    split
    · rename_i stopped
      cases going.symm.trans stopped
    · rename_i goes
      cases going.symm.trans goes
      rfl

theorem runSession_replays (content : Database) (headless : config.realtime = false)
    (known : content.maps.contains config.startMap = true) :
    ∃ metrics, runSession content config =
      .ok (((Replay.start content config.startMap).run config.script
        (config.maxTicks.getD defaultMaxTicks)).summary metrics) := by
  have shows := (Mirrors.start content config).runFrames
    (config.maxTicks.getD defaultMaxTicks) config.maxTicksPerFrame
  simp only [runSession, known, limit?_of_headless headless, ↓reduceIte]
  exact ⟨_, congrArg Except.ok shows.summary_eq⟩

theorem runPaced_replays (content : Database) (headless : config.realtime = false)
    (known : content.maps.contains config.startMap = true) (pace : Pace) {clock : List Nat}
    (long : config.maxTicks.getD defaultMaxTicks < clock.length) :
    ∃ metrics, runPaced content config pace clock =
      .ok (some (((Replay.start content config.startMap).run config.script
        (config.maxTicks.getD defaultMaxTicks)).summary metrics)) := by
  obtain ⟨after, ran, shows⟩ := (Mirrors.start content config).runClock headless
    (limit?_of_headless headless) pace 0 clock long
  simp only [runPaced, known, ran, Option.map_some, ↓reduceIte]
  exact ⟨_, congrArg (fun summary => Except.ok (some summary)) shows.summary_eq⟩

end Session

/--
A session that is not held to the clock ends with what its ticks lead to when they are played one by
one. Neither the frames nor the clock nor the order of input of different ticks make a difference.
-/
theorem headless_session_replays (content : Database) (config : SessionConfig)
    (headless : config.realtime = false) (known : content.maps.contains config.startMap = true) :
    let limit := config.maxTicks.getD defaultMaxTicks
    let final := (Replay.start content config.startMap).run config.script limit
    (∃ metrics, runSession content config = .ok (final.summary metrics)) ∧
      runSession content { config with maxTicksPerFrame := 0 } =
        runSession content { config with maxTicksPerFrame := 1 } ∧
      ∀ other : SessionConfig, other.realtime = false → other.startMap = config.startMap →
        other.maxTicks = config.maxTicks →
        (∀ tick, other.script.filter (fun entry => entry.tick = tick) =
          config.script.filter (fun entry => entry.tick = tick)) →
        (∃ metrics, runSession content other = .ok (final.summary metrics)) ∧
          ∀ pace clock, limit < clock.length →
            ∃ metrics, runPaced content other pace clock = .ok (some (final.summary metrics)) := by
  intro limit final
  refine ⟨Session.runSession_replays content headless known, ?_, ?_⟩
  · simp only [runSession, Session.runFrames_zero]
    rfl
  · intro other unpaced sameMap sameLimit sameInput
    have same : (Replay.start content other.startMap).run other.script
        (other.maxTicks.getD defaultMaxTicks) = final := by
      rw [sameMap, sameLimit, Replay.run_congr sameInput]
    rw [← same]
    refine ⟨Session.runSession_replays content unpaced (sameMap ▸ known), ?_⟩
    intro pace clock long
    exact Session.runPaced_replays content unpaced (sameMap ▸ known) pace (sameLimit ▸ long)

def meadow : Database where
  commons := ∅
  maps := .ofList [(1, ⟨1, "meadow", ⟨3, 3⟩, ⟨1, 1⟩, .down, []⟩)]
  hero := {}

def visit : SessionConfig where
  realtime := false
  maxTicks := some 9
  script := [⟨3, .keyPressed .quit⟩, ⟨1, .keyPressed .action⟩]

theorem visit_replays :
    let final := (Replay.start meadow 1).run visit.script 9
    let reordered : SessionConfig :=
      { visit with
        maxTicksPerFrame := 2
        script := [⟨1, .keyPressed .action⟩, ⟨3, .keyPressed .quit⟩] }
    final.ticksRun = 3 ∧
      (∃ metrics, runSession meadow visit = .ok (final.summary metrics)) ∧
      (∃ metrics, runSession meadow reordered = .ok (final.summary metrics)) ∧
      ∃ metrics, runPaced meadow reordered ⟨16666667, 250000000⟩ (List.replicate 10 0) =
        .ok (some (final.summary metrics)) := by
  intro final reordered
  have input (tick : Nat) : reordered.script.filter (fun entry => entry.tick = tick) =
      visit.script.filter (fun entry => entry.tick = tick) := by
    by_cases third : 3 = tick
    · subst third
      rfl
    · simp [reordered, visit, List.filter_cons, third]
  obtain ⟨ran, _, same⟩ := headless_session_replays meadow visit rfl (by decide +kernel)
  obtain ⟨again, paced⟩ := same reordered rfl rfl rfl input
  exact ⟨by decide +kernel, ran, again, paced _ _ (by decide)⟩

end TileScript
