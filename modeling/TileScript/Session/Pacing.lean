namespace TileScript

/-- The ticks to run in a frame and what becomes of the time that has passed, in nanoseconds. -/
structure StepPlan where
  ticks : Nat
  remaining : Nat
  dropped : Nat
  deriving DecidableEq

namespace StepPlan

def take (step : Nat) : Nat → Nat → Nat × Nat
  | 0, time => (0, time)
  | left + 1, time =>
    if step ≤ time then
      let rest := take step left (time - step)
      (rest.1 + 1, rest.2)
    else (0, time)

/-- Plans the ticks of a frame. Time for a further tick that the frame may not run is dropped. -/
def plan (time step maxTicks : Nat) : StepPlan :=
  let taken := take step maxTicks time
  if step ≤ taken.2 then ⟨taken.1, 0, taken.2⟩ else ⟨taken.1, taken.2, 0⟩

end StepPlan

end TileScript
