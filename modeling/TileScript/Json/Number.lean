import TileScript.Json.Scan

namespace TileScript.Json

/-- A number as read: whole numbers of 64 bits are kept, any other has a significand of at most 64
bits, further digits being dropped. -/
inductive Number where
  | integer (value : Int)
  | float (value : Float)

namespace Number

def significandLimit : Nat := 18446744073709551615

def digit (char : Char) : Nat := char.toNat - '0'.toNat

def takeWhole (digits : List Char) : Nat × Nat :=
  digits.foldl (fun (significand, dropped) char =>
    let grown := significand * 10 + digit char
    if dropped = 0 ∧ grown ≤ significandLimit then (grown, 0) else (significand, dropped + 1))
    (0, 0)

def takeFraction (significand : Nat) : List Char → Nat × Nat
  | [] => (significand, 0)
  | char :: rest =>
    let grown := significand * 10 + digit char
    if grown ≤ significandLimit then
      let others := takeFraction grown rest
      (others.1, others.2 + 1)
    else (significand, 0)

def powerOfTen (exponent : Nat) : Float := Float.ofScientific 1 false exponent

/-- Divides by ten to the `exponent`, in steps the floating-point range allows. -/
def scaleDown : Nat → Float → Nat → Float
  | 0, value, _ => value
  | steps + 1, value, exponent =>
    if exponent ≤ 308 then value / powerOfTen exponent
    else if value == 0 then value
    else scaleDown steps (value / powerOfTen 308) (exponent - 308)

def scale (significand : Nat) (exponent : Int) : Option Float :=
  let value := significand.toUInt64.toFloat
  if exponent < 0 then some (scaleDown 8 value exponent.natAbs)
  else if exponent ≤ 308 then
    let scaled := value * powerOfTen exponent.toNat
    if scaled.isInf then none else some scaled
  else if significand = 0 then some value
  else none

end Number

namespace Reader

def digits : Reader (List Char) := do
  let found := (← get).rest.takeWhile Char.isDigit
  modify (Scan.eatMany found.length)
  return found

def fraction : Reader (List Char) := do
  eat
  let found ← digits
  if found.isEmpty then stopNext else return found

def exponent : Reader Int := do
  eat
  let negative := (← peek) = some '-'
  if (← peek) = some '+' ∨ (← peek) = some '-' then eat
  match ← peek with
  | none => stop
  | some char =>
    if char.isDigit then
      let found ← digits
      let size : Int := found.foldl (fun value char => value * 10 + Number.digit char) (0 : Nat)
      return if negative then -size else size
    else
      eat
      stop

def whole : Reader (List Char) := do
  match ← peek with
  | none => stop
  | some '0' => do
    eat
    match ← peek with
    | some char => if char.isDigit then stopNext else return ['0']
    | none => return ['0']
  | some char =>
    if char.isDigit then digits
    else
      eat
      stop

def unsigned (strict negative : Bool) : Reader Number := do
  let (significand, dropped) := Number.takeWhole (← whole)
  let point := (← peek) = some '.'
  let (significand, placed) ←
    if point then pure (Number.takeFraction significand (← fraction)) else pure (significand, 0)
  let marked := (← peek) = some 'e' ∨ (← peek) = some 'E'
  let power ← if marked then exponent else pure 0
  let signed (value : Float) : Number := .float (if negative then -value else value)
  if !point && !marked && dropped = 0 then
    if !negative then return .integer significand
    else if 0 < significand ∧ significand ≤ 9223372036854775808 then
      return .integer (-(significand : Int))
    else return signed significand.toUInt64.toFloat
  else
    match Number.scale significand ((dropped : Int) - placed + power) with
    | some value => return signed value
    | none => if strict then stop else return signed 0

def number (strict : Bool) : Reader Number := do
  if (← peek) = some '-' then
    eat
    unsigned strict true
  else unsigned strict false

end Reader

end TileScript.Json
