import TileScript.Session.Basic
import TileScript.Session.Pacing

namespace TileScript

/-- What holds a session to the clock, in nanoseconds. -/
structure Pace where
  tick : Nat
  longestFrame : Nat

def SessionConfig.planFrame (config : SessionConfig) (pace : Pace) (spare elapsed : Nat) :
    StepPlan :=
  let most := max 1 config.maxTicksPerFrame
  if config.realtime then
    StepPlan.plan (spare + min elapsed pace.longestFrame) pace.tick most
  else ⟨most, spare, 0⟩

namespace Session

/-- Frame after frame until the session is over; `none` if the clock stops before. A session without
limit has one that the frame does not reach. -/
def runClock (config : SessionConfig) (pace : Pace) :
    Nat → List Nat → Session → Option Session
  | _, [], _ => none
  | spare, elapsed :: clock, session =>
    let plan := config.planFrame pace spare elapsed
    match session.runFrame (config.limit?.getD (session.ticksRun + plan.ticks)) plan.ticks with
    | .ended after => some after
    | .going after => runClock config pace plan.remaining clock after.publish

end Session

def runPaced (content : Database) (config : SessionConfig) (pace : Pace) (clock : List Nat) :
    Except SessionError (Option Summary) :=
  if content.maps.contains config.startMap then
    .ok (((Session.start content config).runClock config pace 0 clock).map Session.summary)
  else .error (.unknownStartMap config.startMap)

end TileScript
