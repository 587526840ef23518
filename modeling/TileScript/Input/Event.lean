namespace TileScript

inductive InputKey where
  | up
  | down
  | left
  | right
  | action
  | cancel
  | quit
  deriving DecidableEq

namespace InputKey

def all : List InputKey := [up, down, left, right, action, cancel, quit]

def name : InputKey → String
  | up => "up"
  | down => "down"
  | left => "left"
  | right => "right"
  | action => "action"
  | cancel => "cancel"
  | quit => "quit"

end InputKey

inductive InputEvent where
  | keyPressed (key : InputKey)
  | keyReleased (key : InputKey)
  | keyPressedRepeat (key : InputKey)
  /-- Follows the first press of a key and every repeat while it is held. -/
  | keyPressedAndRepeat (key : InputKey)
  | mouseDown (x y : Float32)
  | mouseMove (x y : Float32)
  | mouseUp (x y : Float32)

def InputEvent.type : InputEvent → String
  | keyPressed _ => "key_pressed"
  | keyReleased _ => "key_released"
  | keyPressedRepeat _ => "key_pressed_repeat"
  | keyPressedAndRepeat _ => "key_pressed_and_repeat"
  | mouseDown _ _ => "mouse_down"
  | mouseMove _ _ => "mouse_move"
  | mouseUp _ _ => "mouse_up"

def InputEvent.isPress (event : InputEvent) (key : InputKey) : Bool :=
  match event with
  | .keyPressed pressed => pressed == key
  | _ => false

end TileScript
