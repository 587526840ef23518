import TileScript.Condition
import TileScript.Geometry

namespace TileScript

inductive ObjectRef where
  | this
  | hero
  | sender
  | object (id : Nat)
  deriving DecidableEq

inductive Receiver where
  | all
  | allOthers
  | object (id : Nat)
  | sender
  | hero
  | this
  deriving DecidableEq

inductive VariableOperation where
  | set
  | add
  | sub
  | mul
  deriving DecidableEq

namespace VariableOperation

def all : List VariableOperation := [set, add, sub, mul]

def name : VariableOperation → String
  | set => "set"
  | add => "add"
  | sub => "sub"
  | mul => "mul"

end VariableOperation

inductive StateOperation where
  | replace
  | add
  | remove
  deriving DecidableEq

namespace StateOperation

def all : List StateOperation := [replace, add, remove]

def name : StateOperation → String
  | replace => "replace"
  | add => "add"
  | remove => "remove"

end StateOperation

inductive Command where
  | wait (ticks : Operand)
  | showText (speaker : Option String) (text : String)
  | displayChoice (choices : List String) (cancelIndex : Option Nat)
  | choice
  | ifThen (condition : Condition) (hasElse : Bool)
  | elseBranch
  | whileLoop (condition : Condition)
  | breakLoop
  | stopReaction
  | setVariable (id : Nat) (operation : VariableOperation) (value : Operand)
  | sendEvent (receiver : Receiver) (system : Bool) (event : Nat) (parameters : List Operand)
  /-- Walks an object one tile every `framesPerStep` ticks; without `waitEnd` beside the run. -/
  | moveObject (object : ObjectRef) (steps : List Orientation) (waitEnd : Bool)
      (framesPerStep : Nat)
  | teleport (map : Nat) (target : Position) (orientation : Option Orientation)
  | changeState (object : ObjectRef) (state : Nat) (operation : StateOperation)
  | removeObject (object : ObjectRef)
  | callCommon (id : Nat) (parameters : List Operand)
  | custom (kind : String) (index : Nat)

namespace Command

def kind : Command → String
  | wait _ => "wait"
  | showText _ _ => "show_text"
  | displayChoice _ _ => "display_choice"
  | choice => "choice"
  | ifThen _ _ => "if"
  | elseBranch => "else"
  | whileLoop _ => "while"
  | breakLoop => "break"
  | stopReaction => "stop_reaction"
  | setVariable _ _ _ => "set_variable"
  | sendEvent _ _ _ _ => "send_event"
  | moveObject _ _ _ _ => "move_object"
  | teleport _ _ _ => "teleport"
  | changeState _ _ _ => "change_state"
  | removeObject _ => "remove_object"
  | callCommon _ _ => "call_common"
  | custom kind _ => kind

def isLoop : Command → Bool
  | whileLoop _ => true
  | _ => false

def isIf : Command → Bool
  | ifThen _ _ => true
  | _ => false

def isElse : Command → Bool
  | elseBranch => true
  | _ => false

def isChoice : Command → Bool
  | choice => true
  | _ => false

def isMenu : Command → Bool
  | displayChoice _ _ => true
  | _ => false

def followedByElse (follows : Bool) : Command → Command
  | ifThen condition _ => ifThen condition follows
  | command => command

/-- Commands that run beside the reaction that reaches them: a walk nobody waits for. -/
def runsBeside : Command → Bool
  | moveObject _ _ waitEnd _ => !waitEnd
  | _ => false

end Command

end TileScript
