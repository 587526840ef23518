import TileScript.Json.Basic

namespace TileScript.Json

variable {α : Type}

def integer? (low high : Int) : Json → Option Int
  | integer value => if low ≤ value ∧ value ≤ high then some value else none
  | _ => none

def id32? (json : Json) : Option Nat := (json.integer? 0 4294967295).map Int.toNat

def count64? (json : Json) : Option Nat := (json.integer? 0 18446744073709551615).map Int.toNat

def coordinate? (json : Json) : Option Int32 :=
  (json.integer? (-2147483648) 2147483647).map Int32.ofInt

def flag? : Json → Option Bool
  | bool flag => some flag
  | _ => none

def text? : Json → Option String
  | string text => some text
  | _ => none

def float? : Json → Option Float
  | integer value => some (Float.ofInt value)
  | float value => some value
  | _ => none

/-- A single-precision number; whole numbers are rounded once. -/
def float32? : Json → Option Float32
  | integer value =>
    some (if value < 0 then value.toInt64.toFloat32 else value.toNat.toUInt64.toFloat32)
  | float value => some value.toFloat32
  | _ => none

def list? (element : Json → Option α) : Json → Option (List α)
  | array elements => elements.mapM element
  | _ => none

def optional? (decode : Json → Option α) : Json → Option (Option α)
  | null => some none
  | json => (decode json).map some

def isUnit : Json → Bool
  | null => true
  | object [] => true
  | _ => false

def oneOf? (plain : String → Option α) (carrying : String → Option (Json → Option α)) :
    Json → Option α
  | string name => plain name
  | object [(name, payload)] =>
    match plain name, carrying name with
    | some value, _ => if payload.isUnit then some value else none
    | none, some decode => decode payload
    | none, none => none
  | _ => none

/-- The fields of a record by name: an object in which no known name repeats, or an array of the
fields in order. -/
def fields? (names : List String) : Json → Option (String → Option Json)
  | object entries =>
    if names.all (fun name => (entries.filter (·.1 == name)).length ≤ 1) then
      some (fun name => (entries.find? (·.1 == name)).map (·.2))
    else none
  | array elements =>
    if elements.length ≤ names.length then
      some (fun name => (names.idxOf? name).bind (elements[·]?))
    else none
  | _ => none

def mandatory? (fields : String → Option Json) (name : String) (decode : Json → Option α) :
    Option α :=
  (fields name).bind decode

def defaulted? (fields : String → Option Json) (name : String) (decode : Json → Option α)
    (fallback : α) : Option α :=
  match fields name with
  | some json => decode json
  | none => some fallback

/-- A value that names its alternative: under the key `tag` of an object, or as the first element of
an array. The rest is what the alternative consists of. -/
def tagged? (tag : String) : Json → Option (Json × Json)
  | object entries =>
    match entries.filter (·.1 == tag) with
    | [(_, name)] => some (name, .object (entries.filter (·.1 != tag)))
    | _ => none
  | array (name :: elements) => some (name, .array elements)
  | _ => none

def alternative? (names : List String) (byIndex : Bool) : Json → Option String
  | string name => if names.contains name then some name else none
  | integer index => if byIndex ∧ 0 ≤ index then names[index.toNat]? else none
  | _ => none

end TileScript.Json
