import TileScript.Decimal

namespace TileScript

inductive Value where
  | bool (flag : Bool)
  | number (amount : Float)
  | text (words : String)

namespace Value

/-- A variable that was never set holds zero. -/
instance : Inhabited Value := ⟨.number 0⟩

/-- Numbers compare as numbers: the two zeros agree and a NaN differs from itself. -/
def beq : Value → Value → Bool
  | bool left, bool right => left == right
  | number left, number right => left == right
  | text left, text right => left == right
  | _, _ => false

instance : BEq Value := ⟨beq⟩

def display : Value → String
  | bool flag => if flag then "true" else "false"
  | number amount => numberText amount
  | text words => "\"" ++ words ++ "\""

def inline : Value → String
  | text words => words
  | value => value.display

def number? : Value → Option Float
  | number amount => some amount
  | _ => none

def bool? : Value → Option Bool
  | bool flag => some flag
  | _ => none

def order? : Value → Value → Option Ordering
  | number left, number right =>
    if left < right then some .lt
    else if right < left then some .gt
    else if left == right then some .eq
    else none
  | text left, text right => some (compare left right)
  | _, _ => none

end Value

/-- A whole number of ticks: negative numbers and NaN give zero, halves go up, and the count stops
at the largest 32-bit number. -/
def ticksOf (number : Float) : Nat :=
  if 0 < number then
    let whole := number.toUInt32
    if 0.5 ≤ number - whole.toFloat then min (whole.toNat + 1) (UInt32.size - 1) else whole.toNat
  else 0

inductive Operand where
  | constant (value : Value)
  | ofVariable (id : Nat)
  | ofParameter (index : Nat)

end TileScript
