import TileScript.Command
import TileScript.Json.Decode

namespace TileScript

open Json

def Value.ofJson? : Json → Option Value
  | .bool flag => some (.bool flag)
  | .string words => some (.text words)
  | json => json.float?.map .number

def Json.only? (json : Json) (name : String) : Option Json :=
  match json with
  | .object entries =>
    match entries.filter (·.1 == name) with
    | [(_, value)] => some value
    | _ => none
  | _ => none

/-- An operand: a variable, a parameter or a plain value, whichever fits first. -/
def Operand.ofJson? (json : Json) : Option Operand :=
  ((json.only? "var").bind Json.id32?).map .ofVariable
    |>.or (((json.only? "param").bind Json.count64?).map .ofParameter)
    |>.or ((Value.ofJson? json).map .constant)

def Orientation.ofName? (name : String) : Option Orientation :=
  Orientation.all.find? (·.name == name)

def Comparison.ofSymbol? (symbol : String) : Option Comparison :=
  Comparison.all.find? (·.symbol == symbol)

def VariableOperation.ofName? (name : String) : Option VariableOperation :=
  VariableOperation.all.find? (·.name == name)

def StateOperation.ofName? (name : String) : Option StateOperation :=
  StateOperation.all.find? (·.name == name)

def ObjectRef.ofName? : String → Option ObjectRef
  | "this" => some .this
  | "hero" => some .hero
  | "sender" => some .sender
  | _ => none

def Receiver.ofName? : String → Option Receiver
  | "all" => some .all
  | "all_others" => some .allOthers
  | "sender" => some .sender
  | "hero" => some .hero
  | "this" => some .this
  | _ => none

def Json.named? {α : Type} (ofName : String → Option α) : Json → Option α :=
  Json.oneOf? ofName (fun _ => none)

def Orientation.ofJson? : Json → Option Orientation := Json.named? Orientation.ofName?

def ObjectRef.ofJson? : Json → Option ObjectRef :=
  Json.oneOf? ObjectRef.ofName? (fun name =>
    if name = "object" then some (fun payload => payload.id32?.map .object) else none)

def Receiver.ofJson? : Json → Option Receiver :=
  Json.oneOf? Receiver.ofName? (fun name =>
    if name = "object" then some (fun payload => payload.id32?.map .object) else none)

def Condition.ofJson? (json : Json) : Option Condition := do
  let fields ← json.fields? ["left", "op", "right"]
  let left ← Json.mandatory? fields "left" Operand.ofJson?
  let comparison ← Json.mandatory? fields "op" (Json.named? Comparison.ofSymbol?)
  let right ← Json.mandatory? fields "right" Operand.ofJson?
  return ⟨left, comparison, right⟩

namespace Command

def kinds : List String :=
  ["wait", "show_text", "display_choice", "choice", "if", "else", "while", "break",
    "stop_reaction", "set_variable", "send_event", "move_object", "teleport", "change_state",
    "remove_object", "call_common"]

def bare? (command : Command) : Json → Option Command
  | .array [] => some command
  | .object _ => some command
  | _ => none

def ofFields? (kind : String) (json : Json) : Option Command :=
  match kind with
  | "wait" => do
    let fields ← json.fields? ["ticks"]
    return .wait (← mandatory? fields "ticks" Operand.ofJson?)
  | "show_text" => do
    let fields ← json.fields? ["speaker", "text"]
    return .showText (← defaulted? fields "speaker" (optional? text?) none)
      (← mandatory? fields "text" text?)
  | "display_choice" => do
    let fields ← json.fields? ["choices", "cancel_index"]
    return .displayChoice (← mandatory? fields "choices" (list? text?))
      (← defaulted? fields "cancel_index" (optional? count64?) none)
  | "choice" => bare? .choice json
  | "if" => do
    let fields ← json.fields? ["condition"]
    return .ifThen (← mandatory? fields "condition" Condition.ofJson?) false
  | "else" => bare? .elseBranch json
  | "while" => do
    let fields ← json.fields? ["condition"]
    return .whileLoop (← mandatory? fields "condition" Condition.ofJson?)
  | "break" => bare? .breakLoop json
  | "stop_reaction" => bare? .stopReaction json
  | "set_variable" => do
    let fields ← json.fields? ["variable", "operation", "value"]
    return .setVariable (← mandatory? fields "variable" id32?)
      (← defaulted? fields "operation" (named? VariableOperation.ofName?) .set)
      (← mandatory? fields "value" Operand.ofJson?)
  | "send_event" => do
    let fields ← json.fields? ["to", "system", "event_id", "parameters"]
    return .sendEvent (← mandatory? fields "to" Receiver.ofJson?)
      (← defaulted? fields "system" flag? false)
      (← mandatory? fields "event_id" id32?)
      (← defaulted? fields "parameters" (list? Operand.ofJson?) [])
  | "move_object" => do
    let fields ← json.fields? ["object", "steps", "wait_end", "frames_per_step"]
    return .moveObject (← defaulted? fields "object" ObjectRef.ofJson? .this)
      (← mandatory? fields "steps" (list? Orientation.ofJson?))
      (← defaulted? fields "wait_end" flag? true)
      (← defaulted? fields "frames_per_step" id32? 4)
  | "teleport" => do
    let fields ← json.fields? ["map_id", "x", "y", "orientation"]
    return .teleport (← mandatory? fields "map_id" id32?)
      ⟨← mandatory? fields "x" coordinate?, ← mandatory? fields "y" coordinate?⟩
      (← defaulted? fields "orientation" (optional? Orientation.ofJson?) none)
  | "change_state" => do
    let fields ← json.fields? ["object", "state", "operation"]
    return .changeState (← defaulted? fields "object" ObjectRef.ofJson? .this)
      (← mandatory? fields "state" id32?)
      (← defaulted? fields "operation" (named? StateOperation.ofName?) .replace)
  | "remove_object" => do
    let fields ← json.fields? ["object"]
    return .removeObject (← defaulted? fields "object" ObjectRef.ofJson? .this)
  | "call_common" => do
    let fields ← json.fields? ["id", "parameters"]
    return .callCommon (← mandatory? fields "id" id32?)
      (← defaulted? fields "parameters" (list? Operand.ofJson?) [])
  | _ => none

def ofJson? (byIndex : Bool) (json : Json) : Option Command := do
  let (tag, body) ← json.tagged? "kind"
  let kind ← alternative? kinds byIndex tag
  ofFields? kind body

end Command

end TileScript
