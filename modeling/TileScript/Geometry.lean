namespace TileScript

inductive Orientation where
  | up
  | down
  | left
  | right
  deriving DecidableEq, Inhabited

/-- A tile. The coordinates are 32 bits wide and wrap around; the vertical one grows downward. -/
structure Position where
  x : Int32
  y : Int32
  deriving DecidableEq

def Position.step (position : Position) : Orientation → Position
  | .up => ⟨position.x, position.y - 1⟩
  | .down => ⟨position.x, position.y + 1⟩
  | .left => ⟨position.x - 1, position.y⟩
  | .right => ⟨position.x + 1, position.y⟩

namespace Orientation

def all : List Orientation := [.up, .down, .left, .right]

def name : Orientation → String
  | up => "up"
  | down => "down"
  | left => "left"
  | right => "right"

/-- The direction from one tile toward another along the longer axis; the vertical one on a tie. -/
def towards (source target : Position) : Option Orientation :=
  let dx := target.x - source.x
  let dy := target.y - source.y
  if dx = 0 ∧ dy = 0 then none
  else if dy.abs < dx.abs then
    some (if 0 < dx then right else left)
  else
    some (if 0 < dy then down else up)

end Orientation

structure Extent where
  width : Int32
  height : Int32
  deriving DecidableEq

def Extent.contains (extent : Extent) (position : Position) : Bool :=
  0 ≤ position.x && position.x < extent.width && 0 ≤ position.y && position.y < extent.height

end TileScript
