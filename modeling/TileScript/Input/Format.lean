import TileScript.Json.Decode
import TileScript.Session.Basic

namespace TileScript

open Json

def InputKey.ofName? (name : String) : Option InputKey := InputKey.all.find? (·.name == name)

def InputEvent.types : List String :=
  ["key_pressed", "key_released", "key_pressed_repeat", "key_pressed_and_repeat", "mouse_down",
    "mouse_move", "mouse_up"]

def InputEvent.ofFields? (type : String) (json : Json) : Option InputEvent :=
  let keyed (make : InputKey → InputEvent) : Option InputEvent := do
    let fields ← json.fields? ["key"]
    make <$> mandatory? fields "key" (oneOf? InputKey.ofName? (fun _ => none))
  let placed (make : Float32 → Float32 → InputEvent) : Option InputEvent := do
    let fields ← json.fields? ["x", "y"]
    return make (← mandatory? fields "x" float32?) (← mandatory? fields "y" float32?)
  match type with
  | "key_pressed" => keyed .keyPressed
  | "key_released" => keyed .keyReleased
  | "key_pressed_repeat" => keyed .keyPressedRepeat
  | "key_pressed_and_repeat" => keyed .keyPressedAndRepeat
  | "mouse_down" => placed .mouseDown
  | "mouse_move" => placed .mouseMove
  | "mouse_up" => placed .mouseUp
  | _ => none

def InputEvent.ofJson? (byIndex : Bool) (json : Json) : Option InputEvent := do
  let (tag, body) ← json.tagged? "type"
  let type ← alternative? InputEvent.types byIndex tag
  InputEvent.ofFields? type body

def ScriptedInput.reader : Reader ScriptedInput :=
  Reader.mixedRecord "tick" Reader.count64 (fun tick json => do
    return ⟨← tick, ← InputEvent.ofJson? true json⟩)

/-- Reads an input script: a list of entries. What follows the list does not matter. -/
def ScriptedInput.readAll (text : String) : Except Fault (List ScriptedInput) :=
  (Reader.list ScriptedInput.reader).run text

end TileScript
