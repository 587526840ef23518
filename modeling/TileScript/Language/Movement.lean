import TileScript.Run.Basic

namespace TileScript

structure Walk where
  object : Nat
  nextStep : Nat
  cooldown : Nat

namespace Walk

def fresh (object : Nat) : Walk := ⟨object, 0, 0⟩

def stepObject (world : World) (id : Nat) (object : MapObject) (direction : Orientation) : World :=
  let target := object.position.step direction
  let free := world.isPassable target id
  world.modifyObject id (fun object =>
    { object with
      orientation := direction
      position := if free then target else object.position })

/--
One tick of a walk. On a movement route nothing happens while the object is paused. Otherwise the
walk counts down between two steps, and it is over when the wait after the last step is.
-/
def tick (moving : Bool) (steps : List Orientation) (framesPerStep : Nat) (walk : Walk)
    (world : World) : Except Failure (Flow × Walk × World) :=
  let proceed : Except Failure (Flow × Walk × World) :=
    if 0 < walk.cooldown then
      let rested := { walk with cooldown := walk.cooldown - 1 }
      let flow := if rested.cooldown = 0 ∧ walk.nextStep = steps.length then .next else .stay
      .ok (flow, rested, world)
    else
      match steps[walk.nextStep]? with
      | none => .ok (.next, walk, world)
      | some direction =>
        match world.object? walk.object with
        | none => .error (.missingObject walk.object)
        | some object =>
          let stepped : Walk := ⟨walk.object, walk.nextStep + 1, max 1 framesPerStep - 1⟩
          let flow :=
            if stepped.nextStep = steps.length ∧ stepped.cooldown = 0 then .next else .stay
          .ok (flow, stepped, stepObject world walk.object object direction)
  if moving then
    match world.object? walk.object with
    | none => .error (.missingObject walk.object)
    | some object => if object.isPaused then .ok (.stay, walk, world) else proceed
  else proceed

end Walk

end TileScript
