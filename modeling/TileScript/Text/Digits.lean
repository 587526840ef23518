namespace TileScript

def digitsValue (digits : List Char) : Nat :=
  digits.foldl (fun value digit => 10 * value + (digit.toNat - '0'.toNat)) 0

/-- Reads a whole number below `bound`: an optional plus sign and at least one ASCII digit. -/
def readUnsigned? (bound : Nat) (text : List Char) : Option Nat :=
  let digits :=
    match text with
    | '+' :: rest => rest
    | _ => text
  if digits.isEmpty || !digits.all Char.isDigit then none
  else if digitsValue digits < bound then some (digitsValue digits)
  else none

/-- Whether a text without a sign is a number: decimal digits with at most one point among or around
them and perhaps an exponent, or a word for what is infinite or no number. -/
def isDecimal (text : List Char) : Bool :=
  let whole := text.takeWhile Char.isDigit
  let (fraction, rest) :=
    match text.drop whole.length with
    | '.' :: rest => (rest.takeWhile Char.isDigit, rest.dropWhile Char.isDigit)
    | rest => ([], rest)
  let exponent (digits : List Char) : Bool := !digits.isEmpty && digits.all Char.isDigit
  let ends : Bool :=
    match rest with
    | [] => true
    | mark :: '+' :: digits | mark :: '-' :: digits => mark.toLower = 'e' && exponent digits
    | mark :: digits => mark.toLower = 'e' && exponent digits
  ["inf", "infinity", "nan"].contains (String.ofList text).toLower ||
    (!(whole ++ fraction).isEmpty && ends)

end TileScript
