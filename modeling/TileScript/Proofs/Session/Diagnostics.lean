import TileScript.Proofs.Scheduler.Turns
import TileScript.Session.Basic

namespace TileScript

structure TickReport where
  recorded : List Diagnostic
  leaves : Bool

/-- What a session collects of a tick: a map that is left takes its failures with it. -/
def TickReport.collected (report : TickReport) : List Diagnostic :=
  if report.leaves then [] else report.recorded

namespace MapScene

def turns (scene : MapScene) (world : World) : List (Run Activity × Stage) :=
  (scene.opened world).1.turns .standard (scene.opened world).2

theorem update_diagnostics (scene : MapScene) (input : InputSnapshot) (world : World) :
    (scene.update input world).2.1.diagnostics =
        scene.diagnostics ++ (scene.scheduler.diagnostics ++
          (scene.turns world).flatMap (Run.reported .standard)) ∧
      (scene.update input world).2.1.scheduler.diagnostics = [] := by
  have passed := Scheduler.update_diagnostics maxCallDepth (scene.opened world).1
    (scene.opened world).2
  rw [(scene.opened_opens world).diagnostics_eq] at passed
  have kept : (scene.update input world).2.1.diagnostics = scene.diagnostics ++
      ((scene.opened world).1.update .standard (scene.opened world).2).2.1.diagnostics ∧
      (scene.update input world).2.1.scheduler.diagnostics = [] := by
    unfold update opened
    dsimp only
    split
    · exact ⟨rfl, rfl⟩
    · split
      · exact ⟨rfl, rfl⟩
      · exact ⟨rfl, rfl⟩
  exact ⟨kept.1.trans (congrArg (scene.diagnostics ++ ·) passed), kept.2⟩

theorem listen_diagnostics (scene : MapScene) (event : InputEvent) (world : World) :
    (scene.listen event world).1.diagnostics = scene.diagnostics ∧
      (scene.listen event world).1.scheduler.diagnostics = scene.scheduler.diagnostics := by
  unfold listen
  dsimp only
  split
  · exact ⟨rfl, (heroAction_opens _ world).diagnostics_eq⟩
  · exact ⟨rfl, rfl⟩

end MapScene

namespace SceneStack

def OnMap (stack : SceneStack) : Prop :=
  ∃ scene world, stack.layers = [⟨.map scene, world⟩] ∧ scene.diagnostics = [] ∧
    scene.scheduler.diagnostics = []

def report (stack : SceneStack) (input : InputSnapshot) : TickReport :=
  match stack.layers with
  | ⟨.map scene, world⟩ :: _ =>
    ⟨(scene.turns world).flatMap (Run.reported .standard), (scene.update input world).1.isSome⟩
  | _ => ⟨[], false⟩

theorem OnMap.listen {stack : SceneStack} (onMap : OnMap stack) (event : InputEvent) :
    OnMap (stack.listen event) := by
  obtain ⟨scene, world, layers, scenes, schedulers⟩ := onMap
  obtain ⟨sameScene, sameScheduler⟩ := scene.listen_diagnostics event world
  refine ⟨(scene.listen event world).1, (scene.listen event world).2, ?_, ?_, ?_⟩
  · simp only [SceneStack.listen, layers]
    rfl
  · rw [sameScene, scenes]
  · rw [sameScheduler, schedulers]

theorem OnMap.listenAll {stack : SceneStack} (onMap : OnMap stack) (events : List InputEvent) :
    OnMap (events.foldl SceneStack.listen stack) := by
  induction events generalizing stack with
  | nil => exact onMap
  | cons event events ih => exact ih (onMap.listen event)

theorem OnMap.update {stack : SceneStack} (onMap : OnMap stack) (input : InputSnapshot) :
    (stack.update input).takeDiagnostics.1 = (stack.report input).collected ∧
      OnMap (stack.update input).takeDiagnostics.2 := by
  obtain ⟨scene, world, layers, scenes, schedulers⟩ := onMap
  obtain ⟨recorded, emptied⟩ := scene.update_diagnostics input world
  rw [scenes, schedulers, List.nil_append, List.nil_append] at recorded
  cases asked : (scene.update input world).1 with
  | none =>
    have updated : (stack.update input).layers =
        [⟨.map (scene.update input world).2.1, (scene.update input world).2.2⟩] := by
      simp [SceneStack.update, layers, Scene.update, asked, SceneStack.apply]
    constructor
    · simp [takeDiagnostics, updated, Scene.takeDiagnostics, report, layers, asked, recorded,
        TickReport.collected]
    · refine ⟨{ (scene.update input world).2.1 with diagnostics := [] },
        (scene.update input world).2.2, ?_, rfl, emptied⟩
      simp [takeDiagnostics, updated, Scene.takeDiagnostics]
  | some request =>
    -- The scene that ran is dropped, and the one in its place has nothing to hand over.
    have updated : ∃ world, (stack.update input).layers = [⟨.map (.entering request), world⟩] := by
      simp [SceneStack.update, layers, Scene.update, asked, SceneStack.apply, SceneStack.replace,
        SceneStack.pop, SceneStack.push]
    obtain ⟨arrived, updated⟩ := updated
    constructor
    · simp [takeDiagnostics, updated, Scene.takeDiagnostics, report, layers, asked,
        TickReport.collected, MapScene.entering]
    · refine ⟨MapScene.entering request, arrived, ?_, rfl, rfl⟩
      simp [takeDiagnostics, updated, Scene.takeDiagnostics, MapScene.entering]

end SceneStack

namespace Session

def ready (session : Session) : Session :=
  { session.feed with input := session.feed.input.drain.2.2 }

def quits (session : Session) : Bool := session.feed.input.drain.2.1.quitRequested

def played (session : Session) : Session :=
  session.ready.play session.feed.input.drain.1 session.feed.input.drain.2.1

theorem tick_eq (limit : Nat) (session : Session) :
    session.tick limit =
      if limit ≤ session.ticksRun then .ended session
      else if session.quits then .ended session.ready
      else if session.played.stack.layers.isEmpty then .ended session.played
      else .going session.played :=
  rfl

def report (session : Session) : TickReport :=
  (session.feed.input.drain.1.foldl SceneStack.listen session.stack).report
    session.feed.input.drain.2.1

def ledger (limit : Nat) (session : Session) : List TickReport :=
  match _ticked : session.tick limit with
  | .ended after => if after.ticksRun = session.ticksRun then [] else [session.report]
  | .going after => session.report :: ledger limit after
termination_by limit - session.ticksRun
decreasing_by
  have moved := tick_going _ticked
  omega

theorem ledger_ended {limit : Nat} {session after : Session}
    (ticked : session.tick limit = .ended after) :
    session.ledger limit = if after.ticksRun = session.ticksRun then [] else [session.report] := by
  rw [ledger]
  split
  · rename_i last ended
    cases ticked.symm.trans ended
    rfl
  · rename_i going
    cases ticked.symm.trans going

theorem ledger_going {limit : Nat} {session after : Session}
    (ticked : session.tick limit = .going after) :
    session.ledger limit = session.report :: after.ledger limit := by
  rw [ledger]
  split
  · rename_i ended
    cases ticked.symm.trans ended
  · rename_i next going
    cases ticked.symm.trans going
    rfl

theorem played_onMap {session : Session} (onMap : session.stack.OnMap) :
    session.played.stack.OnMap ∧ session.played.diagnostics.toList =
      session.diagnostics.toList ++ session.report.collected := by
  obtain ⟨collected, stays⟩ :=
    (onMap.listenAll session.feed.input.drain.1).update session.feed.input.drain.2.1
  refine ⟨stays, ?_⟩
  have appended : session.played.diagnostics = session.diagnostics ++
      ((session.feed.input.drain.1.foldl SceneStack.listen session.stack).update
        session.feed.input.drain.2.1).takeDiagnostics.1 := rfl
  rw [appended, collected, Array.toList_appendList]
  rfl

theorem tick_onMap (limit : Nat) {session : Session} (onMap : session.stack.OnMap) :
    (∃ after, session.tick limit = .ended after ∧ after.ticksRun = session.ticksRun ∧
      after.diagnostics = session.diagnostics) ∨
    session.tick limit = .going session.played := by
  rw [tick_eq]
  split
  · exact .inl ⟨session, rfl, rfl, rfl⟩
  · split
    · exact .inl ⟨session.ready, rfl, rfl, rfl⟩
    · obtain ⟨scene, world, layers, _⟩ := (played_onMap onMap).1
      right
      rw [layers]
      rfl

def Alike (session other : Session) : Prop :=
  ∃ diagnostics frame published, other =
    { session with diagnostics := diagnostics, frame := frame, published := published }

namespace Alike

variable {session other : Session}

theorem ready (alike : Alike session other) : Alike session.ready other.ready := by
  obtain ⟨diagnostics, frame, published, rfl⟩ := alike
  exact ⟨_, _, _, rfl⟩

theorem played (alike : Alike session other) : Alike session.played other.played := by
  obtain ⟨diagnostics, frame, published, rfl⟩ := alike
  exact ⟨_, _, _, rfl⟩

theorem report_eq (alike : Alike session other) : other.report = session.report := by
  obtain ⟨diagnostics, frame, published, rfl⟩ := alike
  rfl

theorem ticksRun_eq (alike : Alike session other) : other.ticksRun = session.ticksRun := by
  obtain ⟨diagnostics, frame, published, rfl⟩ := alike
  rfl

theorem tick (alike : Alike session other) (limit : Nat) :
    (∃ after result, session.tick limit = .ended after ∧ other.tick limit = .ended result ∧
      Alike after result) ∨
    (∃ after result, session.tick limit = .going after ∧ other.tick limit = .going result ∧
      Alike after result) := by
  have sameTicks := alike.ticksRun_eq
  have sameQuits : other.quits = session.quits := by
    obtain ⟨diagnostics, frame, published, rfl⟩ := alike
    rfl
  have sameStack : other.played.stack = session.played.stack := by
    obtain ⟨diagnostics, frame, published, rfl⟩ := alike
    rfl
  rw [tick_eq, tick_eq, sameTicks, sameQuits, sameStack]
  by_cases reached : limit ≤ session.ticksRun
  · simp only [if_pos reached]
    exact .inl ⟨session, other, rfl, rfl, alike⟩
  · simp only [if_neg reached]
    by_cases quit : session.quits = true
    · simp only [if_pos quit]
      exact .inl ⟨session.ready, other.ready, rfl, rfl, alike.ready⟩
    · simp only [if_neg quit]
      by_cases empty : session.played.stack.layers.isEmpty = true
      · simp only [if_pos empty]
        exact .inl ⟨session.played, other.played, rfl, rfl, alike.played⟩
      · simp only [if_neg empty]
        exact .inr ⟨session.played, other.played, rfl, rfl, alike.played⟩

theorem ledger_eq (alike : Alike session other) (limit : Nat) :
    other.ledger limit = session.ledger limit := by
  induction rest : limit - session.ticksRun using Nat.strongRecOn generalizing session other with
  | ind rest' ih =>
    rcases alike.tick limit with ⟨after, result, ended, ended', same⟩ |
      ⟨after, result, going, going', same⟩
    · rw [ledger_ended ended, ledger_ended ended', alike.ticksRun_eq, same.ticksRun_eq,
        alike.report_eq]
    · have moved := tick_going going
      rw [ledger_going going, ledger_going going', alike.report_eq,
        ih (limit - after.ticksRun) (by omega) same rfl]

end Alike

theorem runFrame_collects (limit count : Nat) {session : Session} (onMap : session.stack.OnMap) :
    (∃ after, session.runFrame limit count = .ended after ∧ after.diagnostics.toList =
      session.diagnostics.toList ++ (session.ledger limit).flatMap TickReport.collected) ∨
    (∃ after reports, session.runFrame limit count = .going after ∧ after.stack.OnMap ∧
      session.ledger limit = reports ++ after.ledger limit ∧ after.diagnostics.toList =
        session.diagnostics.toList ++ reports.flatMap TickReport.collected) := by
  induction count generalizing session with
  | zero => exact .inr ⟨session, [], rfl, onMap, rfl, by simp⟩
  | succ count ih =>
    rcases tick_onMap limit onMap with ⟨after, ended, same, kept⟩ | going
    · refine .inl ⟨after, ?_, ?_⟩
      · rw [runFrame, ended]
      · rw [ledger_ended ended, if_pos same, kept]
        simp
    · obtain ⟨stays, collected⟩ := played_onMap onMap
      have frame : session.runFrame limit (count + 1) = session.played.runFrame limit count := by
        rw [runFrame, going]
      rw [frame, ledger_going going]
      rcases ih stays with ⟨after, ended, all⟩ | ⟨after, reports, goes, later, ledger, all⟩
      · refine .inl ⟨after, ended, ?_⟩
        rw [all, collected]
        simp
      · refine .inr ⟨after, session.report :: reports, goes, later, ?_, ?_⟩
        · rw [ledger, List.cons_append]
        · rw [all, collected]
          simp

/-- A session collects of every tick what the report of the tick says. -/
theorem runFrames_collects (limit ticksPerFrame : Nat) {session : Session}
    (onMap : session.stack.OnMap) :
    (session.runFrames limit ticksPerFrame).diagnostics.toList =
      session.diagnostics.toList ++ (session.ledger limit).flatMap TickReport.collected := by
  induction rest : limit - session.ticksRun using Nat.strongRecOn generalizing session with
  | ind rest' ih =>
    rw [runFrames]
    rcases runFrame_collects limit (ticksPerFrame - 1 + 1) onMap with
      ⟨after, ended, all⟩ | ⟨after, reports, going, stays, ledger, all⟩
    · split
      · rename_i last stopped
        cases ended.symm.trans stopped
        exact all
      · rename_i next goes
        cases ended.symm.trans goes
    · split
      · rename_i last stopped
        cases going.symm.trans stopped
      · rename_i next goes
        cases going.symm.trans goes
        have moved := runFrame_going going
        -- Publishing starts the metrics of a frame afresh, which no report depends on.
        have published : Alike after after.publish := ⟨_, _, _, rfl⟩
        have onMap' : after.publish.stack.OnMap := stays
        have later := ih (limit - after.ticksRun) (by omega) onMap' rfl
        rw [later, published.ledger_eq limit, ledger]
        simp only [publish, all, List.flatMap_append, List.append_assoc]

theorem start_onMap (content : Database) (config : SessionConfig) :
    (Session.start content config).stack.OnMap :=
  ⟨{ map := config.startMap }, _, rfl, rfl, rfl⟩

end Session

namespace TickReport

theorem flatMap_collected (reports : List TickReport) :
    reports.flatMap collected =
      (reports.filter (fun report => !report.leaves)).flatMap recorded := by
  induction reports with
  | nil => rfl
  | cons report reports ih => cases leaves : report.leaves <;> simp [collected, leaves, ih]

theorem length_collected_le (report : TickReport) :
    report.collected.length ≤ report.recorded.length := by
  unfold collected
  split
  · exact Nat.zero_le _
  · exact Nat.le_refl _

theorem length_flatMap_collected_le (reports : List TickReport) :
    (reports.flatMap collected).length ≤ (reports.flatMap recorded).length := by
  induction reports with
  | nil => exact Nat.le_refl _
  | cons report reports ih =>
    have first := report.length_collected_le
    simp only [List.flatMap_cons, List.length_append]
    omega

/-- Everything recorded is collected exactly when no tick that leaves its map recorded anything. -/
theorem flatMap_collected_eq_iff (reports : List TickReport) :
    reports.flatMap collected = reports.flatMap recorded ↔
      ∀ report ∈ reports, report.leaves = true → report.recorded = [] := by
  induction reports with
  | nil => simp
  | cons report reports ih =>
    rw [List.flatMap_cons, List.flatMap_cons, List.forall_mem_cons, ← ih]
    cases leaves : report.leaves with
    | false => simp [collected, leaves]
    | true =>
      simp only [collected, leaves, ↓reduceIte, List.nil_append, forall_const]
      constructor
      · intro same
        have fewer := length_flatMap_collected_le reports
        have lengths := congrArg List.length same
        rw [List.length_append] at lengths
        have silent : report.recorded = [] := List.eq_nil_of_length_eq_zero (by omega)
        rw [silent, List.nil_append] at same
        exact ⟨silent, same⟩
      · rintro ⟨silent, same⟩
        rw [silent, same, List.nil_append]

end TickReport

/-- A session hands over exactly what was recorded in the ticks that stay on their map. -/
theorem summary_collects_ticks_on_map (content : Database) (config : SessionConfig)
    (headless : config.realtime = false) (known : content.maps.contains config.startMap = true) :
    let reports := (Session.start content config).ledger (config.maxTicks.getD defaultMaxTicks)
    ∃ summary, runSession content config = .ok summary ∧
      summary.diagnostics = (reports.filter (fun report => !report.leaves)).flatMap (·.recorded) ∧
      (summary.diagnostics = reports.flatMap (·.recorded) ↔
        ∀ report ∈ reports, report.leaves = true → report.recorded = []) := by
  intro reports
  have limited : config.limit? = some (config.maxTicks.getD defaultMaxTicks) := by
    unfold SessionConfig.limit?
    rw [headless]
    cases config.maxTicks <;> rfl
  have collects := Session.runFrames_collects (config.maxTicks.getD defaultMaxTicks)
    config.maxTicksPerFrame (Session.start_onMap content config)
  refine ⟨((Session.start content config).runFrames (config.maxTicks.getD defaultMaxTicks)
    config.maxTicksPerFrame).summary, ?_, ?_, ?_⟩
  · simp only [runSession, known, limited, ↓reduceIte]
  · exact collects.trans (TickReport.flatMap_collected reports)
  · rw [← TickReport.flatMap_collected_eq_iff]
    exact ⟨fun same => collects.symm.trans same, fun same => collects.trans same⟩

def ticker (id : Nat) (name : String) (command : Command) : PlacedObject where
  id := id
  name := name
  position := ⟨0, 0⟩
  orientation := .down
  initialStates := [1]
  model :=
    { states := [⟨1, false, none⟩]
      handlers := [⟨true, timeEvent, [], .ofList [(1, ⟨.handler (.placed 1 id) 0 1, name,
        .single command, false⟩)]⟩] }

def farewell : Database where
  commons := ∅
  maps := .ofList [
    (1, ⟨1, "home", ⟨3, 3⟩, ⟨1, 1⟩, .down,
      [ticker 1 "broken" (.removeObject (.object 99)), ticker 2 "gate" (.teleport 2 ⟨0, 0⟩ none)]⟩),
    (2, ⟨2, "abroad", ⟨3, 3⟩, ⟨1, 1⟩, .down, []⟩)]
  hero := {}

theorem farewell_loses_failure :
    let config : SessionConfig := { realtime := false, maxTicks := some 1 }
    ∃ summary, runSession farewell config = .ok summary ∧ summary.diagnostics = [] ∧
      (((Session.start farewell config).ledger 1).flatMap (·.recorded)).map (·.reaction) =
        ["broken"] := by
  intro config
  obtain ⟨summary, ran, collected, _⟩ :=
    summary_collects_ticks_on_map farewell config rfl (by decide +kernel)
  refine ⟨summary, ran, ?_, by decide +kernel⟩
  rw [collected]
  exact List.eq_nil_of_length_eq_zero (by decide +kernel)

end TileScript
