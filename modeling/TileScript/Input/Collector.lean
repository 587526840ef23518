import TileScript.Input.Event

namespace TileScript

structure KeyTable (α : Type) where
  up : α
  down : α
  left : α
  right : α
  action : α
  cancel : α
  quit : α

namespace KeyTable

variable {α : Type}

def constant (value : α) : KeyTable α := ⟨value, value, value, value, value, value, value⟩

def get (table : KeyTable α) : InputKey → α
  | .up => table.up
  | .down => table.down
  | .left => table.left
  | .right => table.right
  | .action => table.action
  | .cancel => table.cancel
  | .quit => table.quit

def set (table : KeyTable α) (key : InputKey) (value : α) : KeyTable α :=
  match key with
  | .up => { table with up := value }
  | .down => { table with down := value }
  | .left => { table with left := value }
  | .right => { table with right := value }
  | .action => { table with action := value }
  | .cancel => { table with cancel := value }
  | .quit => { table with quit := value }

end KeyTable

structure InputSnapshot where
  quitRequested : Bool := false
  keys : KeyTable Bool := KeyTable.constant false

def InputSnapshot.isDown (snapshot : InputSnapshot) (key : InputKey) : Bool := snapshot.keys.get key

def keyRepeatTicks : Nat := 8

def heldLimit : Nat := 4294967295

structure InputCollector where
  quitRequested : Bool := false
  keys : KeyTable Bool := KeyTable.constant false
  held : KeyTable Nat := KeyTable.constant 0
  pending : List InputEvent := []

namespace InputCollector

def press (collector : InputCollector) (key : InputKey) : InputCollector :=
  let asked := { collector with quitRequested := collector.quitRequested || key == .quit }
  if collector.keys.get key then asked
  else
    { asked with
      keys := collector.keys.set key true
      held := collector.held.set key 0
      pending := collector.pending ++ [.keyPressed key, .keyPressedAndRepeat key] }

def release (collector : InputCollector) (key : InputKey) : InputCollector :=
  if collector.keys.get key then
    { collector with
      keys := collector.keys.set key false
      pending := collector.pending ++ [.keyReleased key] }
  else collector

def push (collector : InputCollector) (event : InputEvent) : InputCollector :=
  match event with
  | .keyPressed key => collector.press key
  | .keyReleased key => collector.release key
  | other => { collector with pending := collector.pending ++ [other] }

def holdKey (collector : InputCollector) (key : InputKey) : InputCollector :=
  if collector.keys.get key then
    let ticks := min (collector.held.get key + 1) heldLimit
    { collector with
      held := collector.held.set key ticks
      pending :=
        if ticks % keyRepeatTicks = 0 then
          collector.pending ++ [.keyPressedRepeat key, .keyPressedAndRepeat key]
        else collector.pending }
  else collector

def drain (collector : InputCollector) : List InputEvent × InputSnapshot × InputCollector :=
  let repeated := InputKey.all.foldl holdKey collector
  (repeated.pending, ⟨repeated.quitRequested, repeated.keys⟩, { repeated with pending := [] })

end InputCollector

end TileScript
