import TileScript.Text.Hidden

namespace TileScript

def escapeChar (single : Bool) (char : Char) : String :=
  match char with
  | '\x00' => "\\0"
  | '\t' => "\\t"
  | '\n' => "\\n"
  | '\r' => "\\r"
  | '"' => "\\\""
  | '\\' => "\\\\"
  | _ =>
    if char = '\'' then if single then "\\'" else "'"
    else if isHidden char then
      "\\u\x7b" ++ String.ofList (Nat.toDigits 16 char.toNat) ++ "\x7d"
    else char.toString

def quotedText (text : String) : String :=
  "\"" ++ String.join (text.toList.map (escapeChar false)) ++ "\""

def leadingChar? (bytes : List UInt8) : Option (Char × Nat) :=
  [1, 2, 3, 4].findSome? (fun count =>
    if count ≤ bytes.length then
      match (String.fromUTF8? ⟨(bytes.take count).toArray⟩).map String.toList with
      | some [char] => some (char, count)
      | _ => none
    else none)

def escapeByte (byte : UInt8) : String :=
  let digits := (Nat.toDigits 16 byte.toNat).map Char.toUpper
  "\\x" ++ String.ofList (List.replicate (2 - digits.length) '0' ++ digits)

def escapeBytes : Nat → List UInt8 → String
  | 0, _ => ""
  | _ + 1, [] => ""
  | left + 1, byte :: rest =>
    match leadingChar? (byte :: rest) with
    | some (char, count) =>
      escapeChar true char ++ escapeBytes left ((byte :: rest).drop count)
    | none => escapeByte byte ++ escapeBytes left rest

def quotedBytes (bytes : List UInt8) : String :=
  "\"" ++ escapeBytes bytes.length bytes ++ "\""

end TileScript
