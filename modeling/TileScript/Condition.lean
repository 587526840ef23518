import TileScript.Failure

namespace TileScript

inductive Comparison where
  | equal
  | notEqual
  | less
  | lessOrEqual
  | greater
  | greaterOrEqual
  deriving DecidableEq

namespace Comparison

def all : List Comparison := [equal, notEqual, less, lessOrEqual, greater, greaterOrEqual]

def symbol : Comparison → String
  | equal => "=="
  | notEqual => "!="
  | less => "<"
  | lessOrEqual => "<="
  | greater => ">"
  | greaterOrEqual => ">="

/-- Equality is defined for all values; the order only for two numbers or two texts. -/
def holds (comparison : Comparison) (left right : Value) : Except Failure Bool :=
  let ordered (test : Ordering → Bool) : Except Failure Bool :=
    match left.order? right with
    | some order => .ok (test order)
    | none => .error (.incomparable left right)
  match comparison with
  | equal => .ok (left == right)
  | notEqual => .ok (!(left == right))
  | less => ordered (· == .lt)
  | lessOrEqual => ordered (· != .gt)
  | greater => ordered (· == .gt)
  | greaterOrEqual => ordered (· != .lt)

end Comparison

structure Condition where
  left : Operand
  comparison : Comparison
  right : Operand

end TileScript
