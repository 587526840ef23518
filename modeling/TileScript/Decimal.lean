namespace TileScript

structure Decimal where
  digits : Nat
  exponent : Int

namespace Decimal

structure Interval where
  low : Nat
  value : Nat
  high : Nat
  denominator : Nat
  closed : Bool

/--
The reals that round to `mantissa * 2 ^ exponent`. Below a power of two the spacing of binary
numbers halves, and so does the lower half of the interval. The ends belong to numbers with an even
mantissa.
-/
def Interval.around (mantissa : Nat) (exponent : Int) (powerOfTwo : Bool) : Interval :=
  let shift := Nat.pow 2 (exponent - 2).toNat
  { low := (4 * mantissa - if powerOfTwo then 1 else 2) * shift
    value := 4 * mantissa * shift
    high := (4 * mantissa + 2) * shift
    denominator := Nat.pow 2 (2 - exponent).toNat
    closed := mantissa % 2 == 0 }

def Interval.holds (interval : Interval) (scale numerator : Nat) : Bool :=
  if interval.closed then interval.low * scale ≤ numerator && numerator ≤ interval.high * scale
  else interval.low * scale < numerator && numerator < interval.high * scale

def width (n : Nat) : Nat := if n = 0 then 0 else (Nat.toDigits 10 n).length

def leadingExponent (numerator denominator : Nat) : Int :=
  if denominator ≤ numerator then (width (numerator / denominator) : Int) - 1
  else -(width ((denominator + numerator - 1) / numerator - 1) : Int)

/--
The nearest of the two neighbours of the value among decimals of `count` significant digits, if one
of them rounds back; an exact tie goes up.
-/
def Interval.neighbour? (interval : Interval) (lead : Int) (count : Nat) : Option Decimal :=
  let exponent := lead - count + 1
  let scale := Nat.pow 10 (-exponent).toNat
  let unit := interval.denominator * Nat.pow 10 exponent.toNat
  let below := interval.value * scale / unit
  let remainder := interval.value * scale % unit
  let low := interval.holds scale (below * unit)
  let high := interval.holds scale ((below + 1) * unit)
  let pick (digits : Nat) : Decimal :=
    if digits = Nat.pow 10 count then ⟨1, exponent + count⟩ else ⟨digits, exponent⟩
  if high && (!low || unit ≤ 2 * remainder) then some (pick (below + 1))
  else if low then some (pick below)
  else none

def Interval.shortest (interval : Interval) : Decimal :=
  let lead := leadingExponent interval.value interval.denominator
  ((List.range' 1 17).findSome? (interval.neighbour? lead)).getD ⟨0, 0⟩

def fractionSize : Nat := 4503599627370496

def signWeight : Nat := 9223372036854775808

def exponentBits (bits : Nat) : Nat := bits / fractionSize % 2048

def ofBits (bits : Nat) : Decimal :=
  let fraction : Nat := bits % fractionSize
  let biased : Nat := exponentBits bits
  if biased = 0 then
    if fraction = 0 then ⟨0, 0⟩ else (Interval.around fraction (-1074) false).shortest
  else (Interval.around (fractionSize + fraction) ((biased : Int) - 1075) (fraction == 0)).shortest

def positional (decimal : Decimal) : String :=
  let digits := Nat.toDigits 10 decimal.digits
  if 0 ≤ decimal.exponent then
    String.ofList (digits ++ if decimal.digits = 0 then [] else
      List.replicate decimal.exponent.toNat '0')
  else
    let places := (-decimal.exponent).toNat
    let padded := List.replicate (places + 1 - digits.length) '0' ++ digits
    let whole := padded.length - places
    String.ofList (padded.take whole ++ '.' :: padded.drop whole)

end Decimal

/-- The text of a number: the fewest digits that read back as the same number, always positional. -/
def numberText (number : Float) : String :=
  let bits := number.toBits.toNat
  let sign := if Decimal.signWeight ≤ bits then "-" else ""
  if Decimal.exponentBits bits = 2047 then
    if bits % Decimal.fractionSize = 0 then sign ++ "inf" else "NaN"
  else sign ++ (Decimal.ofBits (bits % Decimal.signWeight)).positional

end TileScript
