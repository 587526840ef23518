import TileScript.Json.Scan

namespace TileScript.Json.Reader

def hexDigit? (char : Char) : Option Nat :=
  if '0' ≤ char ∧ char ≤ '9' then some (char.toNat - '0'.toNat)
  else if 'a' ≤ char ∧ char ≤ 'f' then some (char.toNat - 'a'.toNat + 10)
  else if 'A' ≤ char ∧ char ≤ 'F' then some (char.toNat - 'A'.toNat + 10)
  else none

def charsWithin (bytes : Nat) : List Char → Nat × Nat
  | [] => (0, 0)
  | char :: rest =>
    if bytes = 0 then (0, 0)
    else
      let others := charsWithin (bytes - char.utf8Size) rest
      (others.1 + 1, others.2 + char.utf8Size)

def codeUnit : Reader Nat := do
  let rest := (← get).rest
  let (count, bytes) := charsWithin 4 rest
  if bytes < 4 then
    modify (Scan.eatMany rest.length)
    stop
  else
    modify (Scan.eatMany count)
    match rest.take count |>.mapM hexDigit? with
    | some [a, b, c, d] => return ((a * 16 + b) * 16 + c) * 16 + d
    | _ => stop

def expect (char : Char) : Reader Unit := do
  match ← peek with
  | none => stop
  | some found => do
    eat
    if found = char then pure () else stop

def codePoint (strict : Bool) : Reader Char := do
  let unit ← codeUnit
  if !strict then return ' '
  if 0xDC00 ≤ unit ∧ unit ≤ 0xDFFF then stop
  else if 0xD800 ≤ unit ∧ unit ≤ 0xDBFF then
    expect '\\'
    expect 'u'
    let second ← codeUnit
    if 0xDC00 ≤ second ∧ second ≤ 0xDFFF then
      return Char.ofNat (0x10000 + (unit - 0xD800) * 0x400 + (second - 0xDC00))
    else stop
  else return Char.ofNat unit

def escape (strict : Bool) : Reader Char := do
  match ← next with
  | some '"' => return '"'
  | some '\\' => return '\\'
  | some '/' => return '/'
  | some 'b' => return '\x08'
  | some 'f' => return '\x0c'
  | some 'n' => return '\n'
  | some 'r' => return '\r'
  | some 't' => return '\t'
  | some 'u' => codePoint strict
  | _ => stop

def stringRest (strict : Bool) : Nat → List Char → Reader String
  | 0, _ => stop
  | left + 1, reversed => do
    match ← next with
    | none => stop
    | some '"' => return String.ofList reversed.reverse
    | some '\\' => do
      let char ← escape strict
      stringRest strict left (char :: reversed)
    | some char =>
      if char.toNat < 0x20 then stop else stringRest strict left (char :: reversed)

def quoted (strict : Bool) : Reader String := do
  eat
  let scan ← get
  stringRest strict (scan.rest.length + 1) []

end TileScript.Json.Reader
