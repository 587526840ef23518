namespace TileScript.Json

structure Scan where
  rest : List Char
  line : Nat := 1

namespace Scan

def eat (scan : Scan) : Scan :=
  match scan.rest with
  | [] => scan
  | char :: rest => ⟨rest, if char = '\n' then scan.line + 1 else scan.line⟩

def eatMany : Nat → Scan → Scan
  | 0, scan => scan
  | count + 1, scan => eatMany count scan.eat

/-- The line of the next character, a line break counting as part of the line it opens. -/
def peekLine (scan : Scan) : Nat :=
  if scan.rest.head? = some '\n' then scan.line + 1 else scan.line

def isBlank (char : Char) : Bool := char = ' ' || char = '\n' || char = '\t' || char = '\r'

def skipBlank (scan : Scan) : Scan :=
  eatMany (scan.rest.takeWhile isBlank).length scan

end Scan

inductive Segment where
  | key (name : String)
  | index (index : Nat)
  | unknown
  deriving DecidableEq

abbrev Path := List Segment

def Path.text (path : Path) : String :=
  match path with
  | [] => "."
  | segments =>
    (segments.foldl (fun (text, separator) segment =>
      match segment with
      | .key name => (text ++ separator ++ name, ".")
      | .index index => (text ++ "[" ++ toString index ++ "]", ".")
      | .unknown => (text ++ separator ++ "?", ".")) ("", "")).1

structure Fault where
  path : Path := []
  line : Option Nat := none

abbrev Reader := ReaderT Nat (ExceptT Fault (StateM Scan))

namespace Reader

variable {α : Type}

def stop : Reader α := do
  throw { line := some (← get).line }

def stopNext : Reader α := do
  throw { line := some (← get).peekLine }

/-- Fails without settling the line: the enclosing value does that when it is left. -/
def refuse (path : Path) : Reader α := throw { path := path }

def settle (reader : Reader α) : Reader α :=
  tryCatch reader (fun fault => do
    let scan ← get
    throw { fault with line := fault.line.or (some scan.line) })

def inside (segment : Segment) (reader : Reader α) : Reader α :=
  tryCatch reader (fun fault => throw { fault with path := segment :: fault.path })

def peek : Reader (Option Char) := do
  return (← get).rest.head?

def eat : Reader Unit := modify Scan.eat

def next : Reader (Option Char) := do
  let char ← peek
  eat
  return char

def peekToken : Reader (Option Char) := do
  modify Scan.skipBlank
  peek

def nested (reader : Reader α) : Reader α := do
  let left ← read
  if left ≤ 1 then stopNext
  else
    eat
    ReaderT.adapt (· - 1) reader

def word : List Char → Reader Unit
  | [] => pure ()
  | char :: rest => do
    if (← next) = some char then word rest else stop

end Reader

end TileScript.Json
