import TileScript.Text.Digits
import TileScript.World

namespace TileScript.Markers

def splitOpening? : List Char → Option (List Char × List Char)
  | [] => none
  | '\\' :: 'v' :: '[' :: rest => some ([], rest)
  | char :: rest => (splitOpening? rest).map (fun (before, after) => (char :: before, after))

def splitClosing? : List Char → Option (List Char × List Char)
  | [] => none
  | ']' :: rest => some ([], rest)
  | char :: rest => (splitClosing? rest).map (fun (before, after) => (char :: before, after))

theorem length_splitOpening? {text before after : List Char}
    (found : splitOpening? text = some (before, after)) : after.length < text.length := by
  fun_induction splitOpening? text generalizing before after with
  | case1 => cases found
  | case2 rest =>
    cases found
    simp only [List.length_cons]
    omega
  | case3 char rest _ ih =>
    obtain ⟨⟨inner, outer⟩, split, same⟩ := Option.map_eq_some_iff.mp found
    cases same
    have := ih split
    simp only [List.length_cons]
    omega

theorem length_splitClosing? {text before after : List Char}
    (found : splitClosing? text = some (before, after)) : after.length < text.length := by
  fun_induction splitClosing? text generalizing before after with
  | case1 => cases found
  | case2 rest =>
    cases found
    simp
  | case3 char rest _ ih =>
    obtain ⟨⟨inner, outer⟩, split, same⟩ := Option.map_eq_some_iff.mp found
    cases same
    have := ih split
    simp only [List.length_cons]
    omega

def named? (after : List Char) : Option (Nat × List Char) :=
  match splitClosing? after with
  | none => none
  | some (inside, rest) => (readUnsigned? 4294967296 inside).map (·, rest)

theorem length_named? {after rest : List Char} {id : Nat} (found : named? after = some (id, rest)) :
    rest.length < after.length := by
  unfold named? at found
  split at found
  · cases found
  · rename_i inside outside split
    obtain ⟨number, _, same⟩ := Option.map_eq_some_iff.mp found
    cases same
    exact length_splitClosing? split

/-- Replaces the markers of a text by what `valueOf` gives for their variables. An opening that
names no variable stays as it is. -/
def replace (valueOf : Nat → List Char) (text : List Char) : List Char :=
  match _opening : splitOpening? text with
  | none => text
  | some (before, after) =>
    match _marker : named? after with
    | none => before ++ '\\' :: 'v' :: '[' :: replace valueOf after
    | some (id, rest) => before ++ valueOf id ++ replace valueOf rest
termination_by text.length
decreasing_by
  · exact length_splitOpening? _opening
  · exact Nat.lt_trans (length_named? _marker) (length_splitOpening? _opening)

def expand (world : World) (text : String) : String :=
  String.ofList (replace (fun id => (world.valueOf id).inline.toList) text.toList)

end TileScript.Markers
