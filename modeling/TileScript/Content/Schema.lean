import TileScript.Content.CommandFormat

namespace TileScript

open Json Json.Reader

structure ScriptEntry where
  indent : Nat
  command : Command

structure ReactionDecl where
  state : Nat := 0
  blocksHero : Bool := true
  commands : List ScriptEntry := []

structure EventDecl where
  system : Bool := false
  event : Nat := 0
  filters : List (Option Value) := []
  reactions : List ReactionDecl := []

structure StateDecl where
  id : Nat := 0
  directionFix : Bool := false
  route : List ScriptEntry := []

structure ObjectDecl where
  id : Nat := 0
  name : String := ""
  position : Position := ⟨0, 0⟩
  orientation : Orientation := .down
  through : Bool := false
  oneEventPerFrame : Bool := false
  triggerableByOthers : Bool := true
  initialStates : Option (List Nat) := none
  states : List StateDecl := []
  events : List EventDecl := []

structure CommonDecl where
  id : Nat := 0
  name : String := ""
  blocksHero : Bool := false
  commands : List ScriptEntry := []

structure CommonsFile where
  hero : ObjectDecl := {}
  commons : List CommonDecl := []

structure MapFile where
  id : Nat := 0
  name : String := ""
  extent : Extent := ⟨0, 0⟩
  heroStart : Position := ⟨0, 0⟩
  heroOrientation : Orientation := .down
  objects : List ObjectDecl := []

def Orientation.reader : Reader Orientation := oneOf Orientation.ofName? (fun _ => none)

def Comparison.reader : Reader Comparison := oneOf Comparison.ofSymbol? (fun _ => none)

def ObjectRef.reader : Reader ObjectRef :=
  oneOf ObjectRef.ofName? (fun name => if name = "object" then some (.object <$> id32) else none)

def Receiver.reader : Reader Receiver :=
  oneOf Receiver.ofName? (fun name => if name = "object" then some (.object <$> id32) else none)

def Json.Reader.decoded {α : Type} (decode : Json → Option α) : Reader α := do
  match decode (← value) with
  | some decoded => return decoded
  | none => refuse []

def Value.reader : Reader Value := decoded Value.ofJson?

def Operand.reader : Reader Operand := decoded Operand.ofJson?

def Condition.reader : Reader Condition :=
  recordOf [
    .mandatory "left" Operand.reader (fun condition left => { condition with left := left }),
    .mandatory "op" Comparison.reader
      (fun condition comparison => { condition with comparison := comparison }),
    .mandatory "right" Operand.reader (fun condition right => { condition with right := right })]
    ⟨.ofVariable 0, .equal, .ofVariable 0⟩ true

def Command.reader : Reader Command := decoded (Command.ofJson? false)

def ScriptEntry.reader : Reader ScriptEntry :=
  mixedRecord "indent" count64 (fun indent json =>
    (Command.ofJson? true json).map (fun command => ⟨indent.getD 0, command⟩))

def Position.reader : Reader Position :=
  strictRecord [
    .mandatory "x" coordinate (fun position x => { position with x := x }),
    .mandatory "y" coordinate (fun position y => { position with y := y })]
    ⟨0, 0⟩

def ReactionDecl.reader : Reader ReactionDecl :=
  strictRecord [
    .mandatory "state" id32 (fun decl state => { decl with state := state }),
    .defaulted "blocking_hero" flag (fun decl blocks => { decl with blocksHero := blocks }),
    .mandatory "commands" (list ScriptEntry.reader)
      (fun decl commands => { decl with commands := commands })]
    {}

def EventDecl.reader : Reader EventDecl :=
  strictRecord [
    .defaulted "system" flag (fun decl system => { decl with system := system }),
    .mandatory "event_id" id32 (fun decl event => { decl with event := event }),
    .defaulted "parameters" (list (optional Value.reader))
      (fun decl filters => { decl with filters := filters }),
    .mandatory "reactions" (list ReactionDecl.reader)
      (fun decl reactions => { decl with reactions := reactions })]
    {}

def StateDecl.reader : Reader StateDecl :=
  strictRecord [
    .mandatory "id" id32 (fun decl id => { decl with id := id }),
    .defaulted "direction_fix" flag (fun decl fixed => { decl with directionFix := fixed }),
    .defaulted "route" (list ScriptEntry.reader) (fun decl route => { decl with route := route })]
    {}

def ObjectDecl.reader : Reader ObjectDecl :=
  strictRecord [
    .defaulted "id" id32 (fun decl id => { decl with id := id }),
    .mandatory "name" text (fun decl name => { decl with name := name }),
    .defaulted "x" coordinate (fun decl x => { decl with position := ⟨x, decl.position.y⟩ }),
    .defaulted "y" coordinate (fun decl y => { decl with position := ⟨decl.position.x, y⟩ }),
    .defaulted "orientation" Orientation.reader
      (fun decl orientation => { decl with orientation := orientation }),
    .defaulted "through" flag (fun decl through => { decl with through := through }),
    .defaulted "only_one_event_per_frame" flag
      (fun decl single => { decl with oneEventPerFrame := single }),
    .defaulted "can_be_triggered_by_another_object" flag
      (fun decl triggerable => { decl with triggerableByOthers := triggerable }),
    .defaulted "initial_states" (optional (list id32))
      (fun decl states => { decl with initialStates := states }),
    .defaulted "states" (list StateDecl.reader) (fun decl states => { decl with states := states }),
    .defaulted "events" (list EventDecl.reader) (fun decl events => { decl with events := events })]
    {}

def CommonDecl.reader : Reader CommonDecl :=
  strictRecord [
    .mandatory "id" id32 (fun decl id => { decl with id := id }),
    .mandatory "name" text (fun decl name => { decl with name := name }),
    .defaulted "blocking_hero" flag (fun decl blocks => { decl with blocksHero := blocks }),
    .mandatory "commands" (list ScriptEntry.reader)
      (fun decl commands => { decl with commands := commands })]
    {}

def CommonsFile.reader : Reader CommonsFile :=
  strictRecord [
    .mandatory "hero" ObjectDecl.reader (fun file hero => { file with hero := hero }),
    .defaulted "common_reactions" (list CommonDecl.reader)
      (fun file commons => { file with commons := commons })]
    {}

def MapFile.reader : Reader MapFile :=
  strictRecord [
    .mandatory "id" id32 (fun file id => { file with id := id }),
    .mandatory "name" text (fun file name => { file with name := name }),
    .mandatory "width" coordinate (fun file width =>
      { file with extent := ⟨width, file.extent.height⟩ }),
    .mandatory "height" coordinate (fun file height =>
      { file with extent := ⟨file.extent.width, height⟩ }),
    .mandatory "hero_start" Position.reader (fun file start => { file with heroStart := start }),
    .defaulted "hero_orientation" Orientation.reader
      (fun file orientation => { file with heroOrientation := orientation }),
    .defaulted "objects" (list ObjectDecl.reader)
      (fun file objects => { file with objects := objects })]
    {}

end TileScript
