import TileScript.Json.Scan

namespace TileScript

inductive ContentErrorCode where
  | readFile
  | jsonMalformed
  | invalidIndent
  | orphanElse
  | orphanChoice
  | orphanBreak
  | choiceCountMismatch
  | unknownCommonReaction
  | unknownMap
  | duplicateId
  | invalidValue
  deriving DecidableEq

def ContentErrorCode.name : ContentErrorCode → String
  | readFile => "ReadFile"
  | jsonMalformed => "JsonMalformed"
  | invalidIndent => "InvalidIndent"
  | orphanElse => "OrphanElse"
  | orphanChoice => "OrphanChoice"
  | orphanBreak => "OrphanBreak"
  | choiceCountMismatch => "ChoiceCountMismatch"
  | unknownCommonReaction => "UnknownCommonReaction"
  | unknownMap => "UnknownMap"
  | duplicateId => "DuplicateId"
  | invalidValue => "InvalidValue"

inductive Problem where
  | unreadable (reason : String)
  | malformed
  | trailingText
  | nestedStart
  | indentJump (last next : Nat)
  | elseWithoutIf
  | choiceOutsideMenu
  | breakOutsideLoop
  | notABranch
  | branchCount (listed found : Nat)
  | unknownCommon (id : Nat)
  | unknownMap (id : Nat)
  | cancelIndexOutOfRange (choices : Nat)
  | commonDefinedTwice (id : Nat)
  | mapDefinedTwice (id : Nat)
  | objectIdTaken (id map : Nat)
  | stateDeclaredTwice (state : Nat) (object : String)
  | stateReactsTwice (state : Nat)
  | emptyMap (width height : Int32)
  | heroOutside
  | objectOutside (object : String)
  | initialStateUndeclared (state : Nat) (object : String)
  | stateUndeclared (state : Nat) (object : String)
  | timeParameters
  deriving DecidableEq

namespace Problem

def code : Problem → ContentErrorCode
  | unreadable _ => .readFile
  | malformed => .jsonMalformed
  | trailingText => .jsonMalformed
  | nestedStart => .invalidIndent
  | indentJump _ _ => .invalidIndent
  | elseWithoutIf => .orphanElse
  | choiceOutsideMenu => .orphanChoice
  | breakOutsideLoop => .orphanBreak
  | notABranch => .choiceCountMismatch
  | branchCount _ _ => .choiceCountMismatch
  | unknownCommon _ => .unknownCommonReaction
  | unknownMap _ => .unknownMap
  | cancelIndexOutOfRange _ => .invalidValue
  | commonDefinedTwice _ => .duplicateId
  | mapDefinedTwice _ => .duplicateId
  | objectIdTaken _ _ => .duplicateId
  | stateDeclaredTwice _ _ => .duplicateId
  | stateReactsTwice _ => .duplicateId
  | emptyMap _ _ => .invalidValue
  | heroOutside => .invalidValue
  | objectOutside _ => .invalidValue
  | initialStateUndeclared _ _ => .invalidValue
  | stateUndeclared _ _ => .invalidValue
  | timeParameters => .invalidValue

def message : Problem → String
  | unreadable reason => s!"failed to read content file: {reason}"
  | malformed => "invalid content JSON"
  | trailingText => "trailing characters after content JSON"
  | nestedStart => "script must start at indent 0"
  | indentJump last next => s!"indent jumps from {last} to {next}"
  | elseWithoutIf => "else must directly follow an if at the same indent"
  | choiceOutsideMenu => "choice must be nested under display_choice"
  | breakOutsideLoop => "break must be inside a while loop"
  | notABranch => "display_choice may only contain choice branches"
  | branchCount listed found =>
    s!"display_choice lists {listed} choices but has {found} branches"
  | unknownCommon id => s!"common reaction {id} does not exist"
  | unknownMap id => s!"map {id} does not exist"
  | cancelIndexOutOfRange choices => s!"cancel_index is out of range for {choices} choices"
  | commonDefinedTwice id => s!"common reaction id {id} is defined twice"
  | mapDefinedTwice id => s!"map id {id} is defined by more than one file"
  | objectIdTaken id map => s!"object id {id} is already taken on map {map}"
  | stateDeclaredTwice state object => s!"state {state} of '{object}' is declared twice"
  | stateReactsTwice state => s!"state {state} has two reactions for one event"
  | emptyMap width height => s!"map size {width}x{height} must be positive"
  | heroOutside => "hero start lies outside the map"
  | objectOutside object => s!"object '{object}' lies outside the map"
  | initialStateUndeclared state object =>
    s!"initial state {state} is not declared by '{object}'"
  | stateUndeclared state object => s!"'{object}' has no state {state}"
  | timeParameters => "time events take [interval_ticks >= 0, repeat]"

end Problem

structure Located where
  problem : Problem
  path : Json.Path

structure ContentError where
  problem : Problem
  file : String
  path : Option Json.Path
  line : Option Nat

def ContentError.text (error : ContentError) : String :=
  let place :=
    match error.path with
    | some path => ", at=" ++ path.text
    | none => ""
  let line :=
    match error.line with
    | some line => ", line=" ++ toString line
    | none => ""
  error.problem.code.name ++ ": " ++ error.problem.message ++ " (file=" ++ error.file ++ place ++
    line ++ ")"

end TileScript
