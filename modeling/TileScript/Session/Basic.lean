import TileScript.Scene.Stack

namespace TileScript

structure ScriptedInput where
  tick : Nat
  event : InputEvent

structure SessionConfig where
  startMap : Nat := 1
  maxTicks : Option Nat := none
  maxTicksPerFrame : Nat := 5
  realtime : Bool := true
  script : List ScriptedInput := []

def defaultMaxTicks : Nat := 36000

def SessionConfig.limit? (config : SessionConfig) : Option Nat :=
  config.maxTicks.or (if config.realtime then none else some defaultMaxTicks)

structure Metrics where
  blockingPeak : Nat := 0
  parallelPeak : Nat := 0
  diagnostics : Nat := 0
  deriving DecidableEq

def Metrics.record (metrics : Metrics) (counts : Nat × Nat) (diagnostics : Nat) : Metrics where
  blockingPeak := max metrics.blockingPeak counts.1
  parallelPeak := max metrics.parallelPeak counts.2
  diagnostics := metrics.diagnostics + diagnostics

structure Session where
  stack : SceneStack
  input : InputCollector := {}
  script : List ScriptedInput
  ticksRun : Nat := 0
  diagnostics : Array Diagnostic := #[]
  frame : Metrics := {}
  published : Metrics := {}

inductive Progress where
  | ended (session : Session)
  | going (session : Session)

structure Summary where
  ticksRun : Nat
  finalScene : Option String
  vars : IdMap Value
  diagnostics : List Diagnostic
  hud : List String
  metrics : Metrics

namespace Session

def start (content : Database) (config : SessionConfig) : Session where
  stack := SceneStack.push { content := some content } (.map { map := config.startMap })
  script := config.script.mergeSort (fun left right => left.tick ≤ right.tick)

def feed (session : Session) : Session :=
  let arrived (entry : ScriptedInput) : Bool := entry.tick ≤ session.ticksRun
  { session with
    input := (session.script.takeWhile arrived).foldl (fun input entry => input.push entry.event)
      session.input
    script := session.script.dropWhile arrived }

def play (session : Session) (events : List InputEvent) (snapshot : InputSnapshot) : Session :=
  let heard := events.foldl SceneStack.listen session.stack
  let taken := (heard.update snapshot).takeDiagnostics
  { session with
    stack := taken.2
    ticksRun := session.ticksRun + 1
    diagnostics := session.diagnostics ++ taken.1
    frame := session.frame.record taken.2.counts taken.1.length }

def tick (limit : Nat) (session : Session) : Progress :=
  if limit ≤ session.ticksRun then .ended session
  else
    let fed := session.feed
    let drained := fed.input.drain
    let ready := { fed with input := drained.2.2 }
    if drained.2.1.quitRequested then .ended ready
    else
      let played := ready.play drained.1 drained.2.1
      if played.stack.layers.isEmpty then .ended played else .going played

def runFrame (limit : Nat) : Nat → Session → Progress
  | 0, session => .going session
  | count + 1, session =>
    match session.tick limit with
    | .ended after => .ended after
    | .going after => runFrame limit count after

def publish (session : Session) : Session :=
  { session with published := session.frame, frame := {} }

theorem tick_going {limit : Nat} {session after : Session}
    (ticked : session.tick limit = .going after) :
    session.ticksRun < limit ∧ after.ticksRun = session.ticksRun + 1 := by
  unfold tick at ticked
  split at ticked
  · cases ticked
  · rename_i below
    dsimp only at ticked
    split at ticked
    · cases ticked
    · split at ticked
      · cases ticked
      · cases ticked
        exact ⟨Nat.lt_of_not_le below, rfl⟩

theorem runFrame_le {limit count : Nat} {session after : Session}
    (ran : runFrame limit count session = .going after) : session.ticksRun ≤ after.ticksRun := by
  induction count generalizing session with
  | zero =>
    cases ran
    exact Nat.le_refl _
  | succ count ih =>
    rw [runFrame] at ran
    split at ran
    · cases ran
    · rename_i middle ticked
      have first := (tick_going ticked).2
      have rest := ih ran
      omega

theorem runFrame_going {limit count : Nat} {session after : Session}
    (ran : runFrame limit (count + 1) session = .going after) :
    session.ticksRun < limit ∧ session.ticksRun < after.ticksRun := by
  rw [runFrame] at ran
  split at ran
  · cases ran
  · rename_i middle ticked
    have first := tick_going ticked
    have rest := runFrame_le ran
    omega

def runFrames (limit ticksPerFrame : Nat) (session : Session) : Session :=
  match _ran : runFrame limit (ticksPerFrame - 1 + 1) session with
  | .ended after => after
  | .going after => runFrames limit ticksPerFrame after.publish
termination_by limit - session.ticksRun
decreasing_by
  have moved := runFrame_going _ran
  simp only [publish]
  omega

def summary (session : Session) : Summary where
  ticksRun := session.ticksRun
  finalScene := session.stack.topName?
  vars := session.stack.popAll.vars
  diagnostics := session.diagnostics.toList
  hud := session.stack.draw
  metrics := session.published

end Session

inductive SessionError where
  | unknownStartMap (map : Nat)
  /-- It has no tick limit and nothing in its input ends it. -/
  | endless

def SessionError.message : SessionError → String
  | unknownStartMap map => s!"start map {map} is not defined by the loaded content"
  | endless => "the session has no tick limit and never quits"

/--
Plays a whole session. Pacing does not change what the ticks do. A session without limit can only be
ended by its input, so it is over by the last scripted tick or never.
-/
def runSession (content : Database) (config : SessionConfig) : Except SessionError Summary :=
  if content.maps.contains config.startMap then
    let begun := Session.start content config
    match config.limit? with
    | some limit => .ok (begun.runFrames limit config.maxTicksPerFrame).summary
    | none =>
      let horizon := (config.script.map (·.tick + 1)).foldl max 1
      let ended := begun.runFrames horizon config.maxTicksPerFrame
      if ended.ticksRun < horizon then .ok ended.summary else .error .endless
  else .error (.unknownStartMap config.startMap)

end TileScript
