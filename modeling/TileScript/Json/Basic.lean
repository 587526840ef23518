import TileScript.Json.Number
import TileScript.Json.Text

namespace TileScript

/-- A JSON value; the fields of an object keep their order and may repeat. -/
inductive Json where
  | null
  | bool (flag : Bool)
  | integer (value : Int)
  | float (value : Float)
  | string (text : String)
  | array (elements : List Json)
  | object (fields : List (String × Json))

namespace Json

def ofNumber : Number → Json
  | .integer value => .integer value
  | .float value => .float value

namespace Reader

variable {α β : Type}

def moreElements (first : Bool) : Reader Bool := do
  match ← peekToken with
  | some ']' => return false
  | some ',' =>
    if first then return true
    else
      eat
      match ← peekToken with
      | some ']' => stopNext
      | some _ => return true
      | none => stopNext
  | some _ => if first then return true else stopNext
  | none => stopNext

def closeArray : Reader Unit := do
  match ← peekToken with
  | some ']' => eat
  | some ',' => do
    eat
    let _ ← peekToken
    stopNext
  | _ => stopNext

def closeObject : Reader Unit := do
  match ← peekToken with
  | some '}' => eat
  | _ => stopNext

/-- Reads what a bracket holds and then leaves the bracket, also after a failure. -/
def enclosed (body : Reader α) (close : Reader Unit) : Reader α :=
  settle do
    let result ← tryCatch (Except.ok <$> nested body) (fun fault => pure (.error fault))
    match result with
    | .ok value =>
      close
      return value
    | .error fault =>
      tryCatch close (fun _ => pure ())
      throw fault

def nextKey? (strict first : Bool) : Reader (Option String) :=
  inside .unknown do
    match ← peekToken with
    | some '}' => return none
    | some char => do
      if !first then
        if char = ',' then
          eat
          let _ ← peekToken
        else stopNext
      if (← peek) = some '"' then some <$> quoted strict else stopNext
    | none => stopNext

def colon : Reader Unit := do
  if (← peekToken) = some ':' then eat else stopNext

def foldElements (step : Nat → β → Reader β) : Nat → Nat → β → Reader β
  | 0, _, _ => stop
  | left + 1, index, state => do
    if ← moreElements (index = 0) then
      let grown ← inside (.index index) (step index state)
      foldElements step left (index + 1) grown
    else return state

def foldFields (strict : Bool) (step : String → β → Reader β) : Nat → Bool → β → Reader β
  | 0, _, _ => stop
  | left + 1, first, state => do
    match ← nextKey? strict first with
    | none => return state
    | some key => do
      let grown ← step key state
      foldFields strict step left false grown

def bound : Reader Nat := do
  return (← get).rest.length + 1

def arrayOf (element : Reader α) : Reader (List α) :=
  enclosed (do
    let reversed ← foldElements (fun _ reversed => (· :: reversed) <$> element) (← bound) 0 []
    return reversed.reverse) closeArray

def field (key : String) (value : Reader α) : Reader α := do
  colon
  inside (.key key) value

/-- Reads a value of any kind. Unless `strict`, neither the size of numbers nor the pairing of
surrogates matters. -/
def anyValue (strict : Bool) : Nat → Reader Json
  | 0 => stop
  | levels + 1 => do
    match ← peekToken with
    | none => stopNext
    | some 'n' => eat; word "ull".toList; return .null
    | some 't' => eat; word "rue".toList; return .bool true
    | some 'f' => eat; word "alse".toList; return .bool false
    | some '"' => .string <$> quoted strict
    | some '[' => .array <$> arrayOf (anyValue strict levels)
    | some '{' =>
      enclosed (do
        let reversed ← foldFields strict
          (fun key reversed => do
            let value ← field key (anyValue strict levels)
            return (key, value) :: reversed)
          (← bound) true []
        return .object reversed.reverse) closeObject
    | some char =>
      if char = '-' || char.isDigit then ofNumber <$> number strict else stopNext

def value : Reader Json := do
  anyValue true ((← read) + 1)

def skip : Reader Unit := do
  let levels := (← get).rest.length + 2
  let _ ← ReaderT.adapt (fun _ => levels) (anyValue false levels)

/-- Fails on a value of the wrong kind; a scalar is read first, and may be malformed itself. -/
def wrongKind : Reader α := do
  match ← peek with
  | some '[' | some '{' => stop
  | _ =>
    let _ ← value
    stop

def integer (low high : Int) : Reader Int := do
  match ← peekToken with
  | none => stopNext
  | some char =>
    if char = '-' || char.isDigit then
      match ← number true with
      | .integer value => if low ≤ value ∧ value ≤ high then return value else stop
      | .float _ => stop
    else wrongKind

def id32 : Reader Nat := Int.toNat <$> integer 0 4294967295

def count64 : Reader Nat := Int.toNat <$> integer 0 18446744073709551615

def coordinate : Reader Int32 := Int32.ofInt <$> integer (-2147483648) 2147483647

def flag : Reader Bool := do
  match ← peekToken with
  | none => stopNext
  | some 't' => eat; word "rue".toList; return true
  | some 'f' => eat; word "alse".toList; return false
  | some _ => wrongKind

def text : Reader String := do
  match ← peekToken with
  | none => stopNext
  | some '"' => quoted true
  | some _ => wrongKind

def list (element : Reader α) : Reader (List α) := do
  match ← peekToken with
  | none => stopNext
  | some '[' => arrayOf element
  | some _ => wrongKind

def optional (reader : Reader α) : Reader (Option α) := do
  match ← peekToken with
  | some 'n' => eat; word "ull".toList; return none
  | _ => some <$> reader

def null : Reader Unit := do
  match ← peekToken with
  | none => stopNext
  | some 'n' => eat; word "ull".toList
  | some _ => wrongKind

/-- Reads one of several named alternatives, written as its name or as an object with the name as
the only key. An alternative either stands for a value or reads one behind the key. -/
def oneOf (plain : String → Option α) (carrying : String → Option (Reader α)) : Reader α := do
  match ← peekToken with
  | none => stopNext
  | some '"' => do
    match plain (← quoted true) with
    | some value => return value
    | none => stop
  | some '{' => do
    let value ← nested do
      let name ← if (← peekToken) = some '"' then quoted true else stopNext
      match plain name, carrying name with
      | some value, _ => do
        colon
        inside (.key name) null
        return value
      | none, some reader => do
        colon
        inside (.key name) reader
      | none, none => stop
    match ← peekToken with
    | some '}' => eat; return value
    | _ => stop
  | some _ => stopNext

structure Field (β : Type) where
  name : String
  required : Bool
  fill : β → Reader β

def Field.mandatory (name : String) (reader : Reader α) (store : β → α → β) : Field β :=
  ⟨name, true, fun record => store record <$> reader⟩

def Field.defaulted (name : String) (reader : Reader α) (store : β → α → β) : Field β :=
  ⟨name, false, fun record => store record <$> reader⟩

def recordField (fields : List (Field β)) (skipUnknown : Bool) (key : String)
    (state : List String × β) : Reader (List String × β) := do
  match fields.find? (·.name == key) with
  | none =>
    if skipUnknown then
      field key skip
      return state
    else refuse [.key key]
  | some known =>
    if state.1.contains key then refuse []
    else
      let filled ← field key (known.fill state.2)
      return (key :: state.1, filled)

def recordElements : List (Field β) → Nat → β → Reader β
  | [], _, record => return record
  | field :: rest, index, record => do
    if ← moreElements (index = 0) then
      let filled ← inside (.index index) (field.fill record)
      recordElements rest (index + 1) filled
    else if (field :: rest).any (·.required) then refuse []
    else return record

def recordOf (fields : List (Field β)) (blank : β) (skipUnknown : Bool) : Reader β := do
  match ← peekToken with
  | none => stopNext
  | some '{' =>
    enclosed (do
      let (seen, record) ←
        foldFields true (recordField fields skipUnknown) (← bound) true ([], blank)
      if fields.any (fun field => field.required && !seen.contains field.name) then refuse []
      else return record) closeObject
  | some '[' => enclosed (recordElements fields 0 blank) closeArray
  | some _ => wrongKind

def strictRecord (fields : List (Field β)) (blank : β) : Reader β := recordOf fields blank false

def mixedField (name : String) (typed : Reader α) (key : String)
    (state : Option α × List (String × Json)) : Reader (Option α × List (String × Json)) :=
  if key = name then
    match state.1 with
    | some _ => refuse []
    | none => do
      let read ← field key typed
      return (some read, state.2)
  else do
    let read ← field key value
    return (state.1, (key, read) :: state.2)

/-- Reads an object of which the field `name` is typed. What the other fields mean is for `build` to
say; it may refuse the object as a whole. -/
def mixedRecord (name : String) (typed : Reader α)
    (build : Option α → Json → Option β) : Reader β := do
  match ← peekToken with
  | none => stopNext
  | some '{' =>
    enclosed (do
      let (found, reversed) ← foldFields true (mixedField name typed) (← bound) true (none, [])
      match build found (.object reversed.reverse) with
      | some built => return built
      | none => refuse []) closeObject
  | some _ => wrongKind

def finished : Reader Unit := do
  match ← peekToken with
  | none => pure ()
  | some _ => stopNext

def maxNesting : Nat := 128

def run (reader : Reader α) (text : String) : Except Fault α :=
  (reader maxNesting ⟨text.toList, 1⟩).1

end Reader

end Json

end TileScript
