import TileScript.Launch.Log
import TileScript.Launch.Pattern
import TileScript.Text.Digits

namespace TileScript

structure LogRule where
  target : Option String := none
  fields : List String := []
  rank : Nat := LogLevel.trace.rank

namespace LogRule

def concerns (rule : LogRule) (line : LogLine) : Bool :=
  rule.target.all (fun target => target.toList.isPrefixOf line.source.path.toList) &&
    rule.fields.all line.names.contains

def reach (rule : LogRule) : Nat :=
  match rule.target with
  | none => 0
  | some target => target.utf8ByteSize + 1

/-- Which of two rules about the same line is the more specific one: that with the longer target,
then that with more names, then that with the greater names. -/
def specificity (left right : LogRule) : Ordering :=
  (compare left.reach right.reach).then
    ((compare left.fields.length right.fields.length).then (compare left.fields right.fields))

end LogRule

abbrev LogFilter := List LogRule

namespace LogFilter

def standard : LogFilter := [{ rank := LogLevel.info.rank }]

/-- The rule that decides about a line: the most specific one, and of equals the last. -/
def ruleFor? (filter : LogFilter) (line : LogLine) : Option LogRule :=
  (filter.filter (·.concerns line)).foldl (fun best rule =>
    match best with
    | none => some rule
    | some held => if LogRule.specificity held rule = .gt then some held else some rule) none

def shows (filter : LogFilter) (line : LogLine) : Bool :=
  (filter.ruleFor? line).any (line.level.rank ≤ ·.rank)

end LogFilter

inductive LogFilterError where
  | malformed
  | torn

structure LogRuleDraft where
  target : Option String := none
  inSpan : Bool := false
  fields : List (String × Bool) := []
  rank : Nat := LogLevel.trace.rank

inductive LogRulePart where
  | start
  | word (first : Nat)
  | span (first : Nat)
  | field (first : Nat)
  | afterFields
  | afterSpan
  | level (first : Nat)

namespace LogRuleDraft

/-- The finished rule. Values are those of spans, and the program does its work outside of spans: a
rule that asks for either never speaks about a line. -/
def rule? (draft : LogRuleDraft) : Option LogRule :=
  if draft.inSpan || draft.fields.any (·.2) then none
  else some ⟨draft.target, draft.fields.map (·.1), draft.rank⟩

def isBoundary (text : String) (offset : Nat) : Bool :=
  match text.toUTF8.data[offset]? with
  | some byte => byte < 0x80 || 0xc0 ≤ byte
  | none => offset = text.utf8ByteSize

def piece (text : String) (first last : Nat) : Except LogFilterError String :=
  if isBoundary text first && isBoundary text last then
    match String.fromUTF8? (text.toUTF8.extract first last) with
    | some piece => .ok piece
    | none => .error .torn
  else .error .torn

def rankOf? (text : String) : Option Nat :=
  match readUnsigned? 6 text.toList with
  | some rank => some rank
  | none =>
    if text.toLower = "off" then some 0
    else (LogLevel.all.find? (fun level => level.name.toLower == text.toLower)).map LogLevel.rank

/-- Whether a rule can ask for a value: a number or a pattern. Of all numbers only those with a plus
sign are no patterns. -/
def isValue (text : String) : Bool :=
  match text.toList with
  | '+' :: rest => isDecimal rest
  | _ => Pattern.isWellFormed text

def fieldOf? (text : String) : Option (String × Bool) :=
  match text.splitOn "=" with
  | [] | [""] => none
  | [name] => some (name, false)
  | name :: value :: _ => if isValue value then some (name, true) else none

def startsWord (char : Char) : Bool := isAlphanumeric char || ['-', ':', '_'].contains char

def step (text : String) (part : LogRulePart) (draft : LogRuleDraft) (offset : Nat) (char : Char) :
    Except LogFilterError (LogRulePart × LogRuleDraft) :=
  match part, char with
  | .start, '[' => .ok (.span (offset + 1), draft)
  | .start, _ => if startsWord char then .ok (.word offset, draft) else .error .malformed
  | .word first, '=' => do
    return (.level (offset + 1), { draft with target := some (← piece text first offset) })
  | .word first, '[' => do
    return (.span (offset + 1), { draft with target := some (← piece text first offset) })
  | .span first, ']' => do
    let _ ← piece text first offset
    return (.afterSpan, { draft with inSpan := true })
  | .span first, '{' => do
    return (.field (offset + 1), { draft with inSpan := (← piece text first offset) != "" })
  | .field first, '}' => do
    match fieldOf? (← piece text first offset) with
    | some field => return (.afterFields, { draft with fields := draft.fields ++ [field] })
    | none => throw .malformed
  | .afterFields, ']' => .ok (.afterSpan, draft)
  | .afterSpan, '=' => .ok (.level (offset + 1), draft)
  | .afterFields, _ | .afterSpan, _ => .error .malformed
  | _, _ => .ok (part, draft)

def steps (text : String) (part : LogRulePart) (draft : LogRuleDraft) (offset : Nat) :
    List Char → Except LogFilterError (LogRulePart × LogRuleDraft)
  | [] => .ok (part, draft)
  | char :: rest => do
    let (part, draft) ← step text part draft offset char
    steps text part draft (offset + char.utf8Size) rest

def finish (text : String) (part : LogRulePart) (draft : LogRuleDraft) :
    Except LogFilterError LogRuleDraft :=
  match part with
  | .word first => do
    let word ← piece text first text.utf8ByteSize
    match rankOf? word with
    | some rank => return { draft with rank := rank }
    | none => return { draft with target := some word }
  | .level first => do
    let word ← piece text first text.utf8ByteSize
    match rankOf? word with
    | some rank => return { draft with rank := rank }
    | none => if word = "" then return draft else throw .malformed
  | .afterSpan => .ok draft
  | _ => .error .malformed

/-- Reads a rule. White space around it is passed over when its parts are told apart; the pieces
themselves are cut from the rule as it is written, at the offsets found so. -/
def read (text : String) : Except LogFilterError LogRuleDraft := do
  let (part, draft) ← steps text .start {} 0 (trimBlank text.toList)
  finish text part draft

end LogRuleDraft

namespace LogFilter

def parse (text : String) : Except LogFilterError LogFilter := do
  let drafts ← ((text.splitOn ",").filter (· != "")).mapM LogRuleDraft.read
  return drafts.filterMap LogRuleDraft.rule?

def ofSetting (setting : Option String) : Except LogFilterError LogFilter :=
  match setting.map parse with
  | none => .ok standard
  | some (.ok filter) => .ok filter
  | some (.error .malformed) => .ok standard
  | some (.error .torn) => .error .torn

end LogFilter

end TileScript
