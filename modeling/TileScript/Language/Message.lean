import TileScript.Run.Basic
import TileScript.Text.Markers

namespace TileScript

structure Message where
  line : String
  confirmed : Bool

namespace Message

def compose (world : World) (speaker : Option String) (text : String) : Message where
  line :=
    match speaker with
    | some name => name ++ ": " ++ Markers.expand world text
    | none => Markers.expand world text
  confirmed := false

def listen (message : Message) (event : InputEvent) : Message :=
  if event.isPress .action then { message with confirmed := true } else message

end Message

structure Menu where
  selected : Nat
  picked : Option Nat

namespace Menu

def fresh : Menu := ⟨0, none⟩

/--
The direction keys move the selection around; the action key picks the selected entry and the
cancel key the cancel entry, if there is one. Once an entry is picked nothing changes any more.
-/
def listen (count : Nat) (cancelIndex : Option Nat) (menu : Menu) (event : InputEvent) : Menu :=
  if count = 0 ∨ menu.picked.isSome then menu
  else
    match event with
    | .keyPressedAndRepeat .up => { menu with selected := (menu.selected + count - 1) % count }
    | .keyPressedAndRepeat .down => { menu with selected := (menu.selected + 1) % count }
    | .keyPressed .action => { menu with picked := some menu.selected }
    | .keyPressed .cancel =>
      match cancelIndex with
      | some index => { menu with picked := some index }
      | none => menu
    | _ => menu

def lines (choices : List String) (menu : Menu) : List String :=
  choices.zipIdx.map (fun (label, index) => (if index = menu.selected then "> " else "  ") ++ label)

def flow (context : Context) (menu : Menu) : Flow :=
  match menu.picked with
  | none => .stay
  | some index =>
    .advance ((context.tree.offsetToChild? context.node index).getD
      (context.tree.skipOffset context.node))

end Menu

end TileScript
