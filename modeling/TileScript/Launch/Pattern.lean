import TileScript.Text.Alphanumeric
import TileScript.Text.Blank

namespace TileScript.Pattern

structure Mode where
  ignoreCase : Bool := false
  wide : Bool := true
  spaced : Bool := false

inductive Atom where
  | literal (char : Char) (byte : Bool)
  | charClass
  | assertion

def skipFill (comment : Bool) : List Char → List Char
  | [] => []
  | char :: rest =>
    if comment then skipFill (char != '\n') rest
    else if isBlank char then skipFill false rest
    else if char = '#' then skipFill true rest
    else char :: rest

def Mode.skip (mode : Mode) (text : List Char) : List Char :=
  if mode.spaced then skipFill false text else text

def hexValue? (char : Char) : Option Nat :=
  if '0' ≤ char ∧ char ≤ '9' then some (char.toNat - '0'.toNat)
  else if 'a' ≤ char ∧ char ≤ 'f' then some (char.toNat - 'a'.toNat + 10)
  else if 'A' ≤ char ∧ char ≤ 'F' then some (char.toNat - 'A'.toNat + 10)
  else none

def codePoint? (mode : Mode) : Nat → Nat → List Char → Option (Nat × List Char)
  | 0, value, text => some (value, text)
  | _ + 1, _, [] => none
  | left + 1, value, char :: rest => do
    let digit ← hexValue? char
    codePoint? mode left (value * 16 + digit) (mode.skip rest)

def numbered? (mode : Mode) (digits : Nat) (text : List Char) : Option (Atom × List Char) := do
  let (code, rest) ← codePoint? mode digits 0 (mode.skip text)
  if code.isValidChar then some (.literal (Char.ofNat code) (digits = 2), rest) else none

/-- Reads what follows a backslash. A digit would refer back to a group and is refused; letters
stand for themselves nowhere. -/
def escaped? (mode : Mode) : List Char → Option (Atom × List Char)
  | [] => none
  | 'x' :: rest => numbered? mode 2 rest
  | 'u' :: rest => numbered? mode 4 rest
  | 'U' :: rest => numbered? mode 8 rest
  | 'a' :: rest => some (.literal '\x07' false, rest)
  | 'f' :: rest => some (.literal '\x0c' false, rest)
  | 't' :: rest => some (.literal '\t' false, rest)
  | 'n' :: rest => some (.literal '\n' false, rest)
  | 'r' :: rest => some (.literal '\r' false, rest)
  | 'v' :: rest => some (.literal '\x0b' false, rest)
  | 'A' :: rest | 'z' :: rest => some (.assertion, rest)
  | char :: rest =>
    if ['d', 's', 'w'].contains char then if mode.wide then none else some (.charClass, rest)
    else if ['b', 'B', '<', '>'].contains char then
      if mode.wide then none else some (.assertion, rest)
    else if char.toNat < 0x80 && !char.isAlphanum then some (.literal char false, rest)
    else none

def Mode.allows (mode : Mode) (char : Char) (byte : Bool) : Bool :=
  if mode.wide then !mode.ignoreCase else !byte || char.toNat < 0x80

def Mode.allowsItems (mode : Mode) : Bool := !(mode.wide && mode.ignoreCase)

def Mode.allowsMember (mode : Mode) (char : Char) : Bool :=
  mode.allowsItems && (mode.wide || char.toNat < 0x80)

def classNames : List String :=
  ["alnum", "alpha", "ascii", "blank", "cntrl", "digit", "graph", "lower", "print", "punct",
    "space", "upper", "word", "xdigit"]

def namedClass? (text : List Char) : Option (Bool × List Char) :=
  match text with
  | ':' :: rest =>
    let (negated, rest) :=
      match rest with
      | '^' :: rest => (true, rest)
      | _ => (false, rest)
    let name := rest.takeWhile (· != ':')
    match rest.drop name.length with
    | ':' :: ']' :: after =>
      if classNames.contains (String.ofList name) then some (negated, after) else none
    | _ => none
  | _ => none

def hyphens (mode : Mode) : Nat → Bool → List Char → Bool × List Char
  | left + 1, _, '-' :: rest => hyphens mode left true (mode.skip rest)
  | _, found, text => (found, text)

def openClass? (mode : Mode) (text : List Char) : Option (List Char) :=
  let text := mode.skip text
  let (negated, text) :=
    match text with
    | '^' :: rest => (true, mode.skip rest)
    | _ => (false, text)
  let (found, text) := hyphens mode text.length false text
  let (found, text) :=
    match found, text with
    | false, ']' :: rest => (true, mode.skip rest)
    | _, _ => (found, text)
  if text.isEmpty || (negated && !mode.wide) || (found && !mode.allowsItems) then none
  else some text

def member? (mode : Mode) : List Char → Option (Atom × List Char)
  | [] => none
  | '\\' :: rest => escaped? mode rest
  | char :: rest => some (.literal char false, rest)

def range? (mode : Mode) (text : List Char) : Option (List Char) := do
  let (first, rest) ← member? mode text
  let rest := mode.skip rest
  let single : Option (List Char) :=
    match first with
    | .literal char _ => if mode.allowsMember char then some rest else none
    | .charClass => if mode.allowsItems then some rest else none
    | .assertion => none
  match rest with
  | [] => none
  | '-' :: after =>
    match mode.skip after with
    | [] => none
    | ']' :: _ | '-' :: _ => single
    | others => do
      let (last, rest) ← member? mode others
      match first, last with
      | .literal low _, .literal high _ =>
        if low ≤ high && mode.allowsMember low && mode.allowsMember high then some rest else none
      | _, _ => none
  | _ => single

/-- Reads what a class holds up to its closing bracket, `depth` classes being open inside it; at
most `left` pieces. Two classes may be joined by `&&`, `--` or `~~`. -/
def classRest? (mode : Mode) : Nat → Nat → List Char → Option (List Char)
  | 0, _, _ => none
  | left + 1, depth, text =>
    match mode.skip text with
    | [] => none
    | '[' :: rest =>
      match namedClass? rest with
      | some (negated, after) =>
        if mode.allowsItems && (mode.wide || !negated) then classRest? mode left depth after
        else none
      | none => do
        let inside ← openClass? mode rest
        classRest? mode left (depth + 1) inside
    | ']' :: rest =>
      match depth with
      | 0 => some rest
      | depth + 1 => classRest? mode left depth rest
    | '&' :: '&' :: rest | '-' :: '-' :: rest | '~' :: '~' :: rest =>
      classRest? mode left depth rest
    | others => do
      let rest ← range? mode others
      classRest? mode left depth rest

/-- Reads the letters of flags up to the colon or the parenthesis behind them, which comes last. No
letter stands twice, and a minus is followed by one. -/
def flags? (reversed : List Char) : List Char → Option (List Char × List Char)
  | [] => none
  | char :: rest =>
    if char = ':' ∨ char = ')' then
      if reversed.head? = some '-' then none else some ((char :: reversed).reverse, rest)
    else if ['i', 's', 'm', 'U', 'u', 'R', 'x', '-'].contains char && !reversed.contains char then
      flags? (char :: reversed) rest
    else none

def Mode.set (mode : Mode) (letters : List Char) : Mode :=
  (letters.foldl (fun (on, mode) letter =>
    match letter with
    | '-' => (false, mode)
    | 'i' => (on, { mode with ignoreCase := on })
    | 'u' => (on, { mode with wide := on })
    | 'x' => (on, { mode with spaced := on })
    | _ => (on, mode)) (true, mode)).2

def groupName? (text : List Char) : Option (String × List Char) :=
  let name := text.takeWhile (· != '>')
  let proper (char : Char) : Bool := ['_', '.', '[', ']'].contains char || isAlphanumeric char
  match name, text.drop name.length with
  | first :: others, '>' :: rest =>
    if (first = '_' || isAlphabetic first) && others.all proper then
      some (String.ofList name, rest)
    else none
  | _, _ => none

structure State where
  rest : List Char
  mode : Mode := {}
  outer : List Mode := []
  names : List String := []
  repeatable : Bool := false

def State.group? (state : State) (rest : List Char) : Option State :=
  let opened : State :=
    { state with outer := state.mode :: state.outer, repeatable := false }
  let named (text : List Char) : Option State := do
    let (name, rest) ← groupName? text
    if state.names.contains name then none
    else some { opened with names := name :: state.names, rest := rest }
  match state.mode.skip rest with
  | '?' :: 'P' :: '<' :: rest => named rest
  | '?' :: '<' :: rest => named rest
  | '?' :: rest => do
    let (letters, rest) ← flags? [] rest
    let mode := state.mode.set letters
    if letters = [')'] then none
    else if letters.getLast? = some ')' then
      some { state with mode := mode, repeatable := false, rest := rest }
    else some { opened with mode := mode, rest := rest }
  | rest => some { opened with rest := rest }

def State.past (state : State) (rest : List Char) : State :=
  { state with rest := rest, repeatable := true }

def State.step? (state : State) : Option State :=
  let mode := state.mode
  match state.rest with
  | [] => none
  | '(' :: rest => state.group? rest
  | ')' :: rest =>
    match state.outer with
    | [] => none
    | mode :: outer => some { state.past rest with mode := mode, outer := outer }
  | '|' :: rest => some { state with rest := rest, repeatable := false }
  | '[' :: rest => do
    let inside ← openClass? mode rest
    let after ← classRest? mode (inside.length + 1) 0 inside
    some (state.past after)
  | '?' :: rest | '*' :: rest | '+' :: rest =>
    if !state.repeatable then none
    else
      match rest with
      | '?' :: rest => some (state.past rest)
      | _ => some (state.past rest)
  | '{' :: _ => none
  | '.' :: rest => if mode.wide then some (state.past rest) else none
  | '^' :: rest | '$' :: rest => some (state.past rest)
  | '\\' :: rest => do
    match ← escaped? mode rest with
    | (.literal char byte, rest) =>
      if mode.allows char byte then some (state.past rest) else none
    | (_, rest) => some (state.past rest)
  | char :: rest => if mode.allows char false then some (state.past rest) else none

def State.finishes : Nat → State → Bool
  | 0, _ => false
  | left + 1, state =>
    let state := { state with rest := state.mode.skip state.rest }
    if state.rest.isEmpty then state.outer.isEmpty
    else
      match state.step? with
      | some next => next.finishes left
      | none => false

/-- Whether a pattern is well-formed: a regular expression without tables of scripts. It stands in
braces itself, so it holds no closing brace. -/
def isWellFormed (text : String) : Bool :=
  State.finishes (text.length + 1) { rest := text.toList }

end TileScript.Pattern
