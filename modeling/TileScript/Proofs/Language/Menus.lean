import Mathlib.Data.List.Induction
import TileScript.Language.Message

namespace TileScript

def InputEvent.moves (event : InputEvent) (key : InputKey) : Bool :=
  match event with
  | .keyPressedAndRepeat moved => moved == key
  | _ => false

namespace Menu

def descent (events : List InputEvent) : Int :=
  events.countP (·.moves .down) - events.countP (·.moves .up)

def pick? (cancelIndex : Option Nat) (selected : Nat) (event : InputEvent) : Option Nat :=
  if event.isPress .action then some selected
  else if event.isPress .cancel then cancelIndex
  else none

def decides (cancelIndex : Option Nat) (event : InputEvent) : Bool :=
  event.isPress .action || event.isPress .cancel && cancelIndex.isSome

structure Marks (choices : List String) (selected : Nat) (lines : List String) : Prop where
  counted : lines.length = choices.length
  labelled : ∀ (index : Nat) label, choices[index]? = some label →
    lines[index]? = some ("> " ++ label) ∨ lines[index]? = some ("  " ++ label)
  marked : ∀ (index : Nat) line, lines[index]? = some line →
    (line.toList.head? = some '>' ↔ index = selected)

variable {count selected : Nat} {cancelIndex : Option Nat} {event : InputEvent}

theorem descent_append (earlier later : List InputEvent) :
    descent (earlier ++ later) = descent earlier + descent later := by
  simp only [descent, List.countP_append, Int.natCast_add]
  omega

theorem lt_of_emod (positive : 0 < count) {moved : Int} (place : (selected : Int) = moved % count) :
    selected < count := by
  have bound := Int.emod_lt_of_pos moved (Int.natCast_pos.mpr positive)
  omega

theorem isSome_pick? (cancelIndex : Option Nat) (selected : Nat) (event : InputEvent) :
    (pick? cancelIndex selected event).isSome = decides cancelIndex event := by
  unfold pick? decides
  cases event.isPress .action <;> cases event.isPress .cancel <;> simp

theorem pick?_lt (inside : selected < count)
    (cancels : ∀ index, cancelIndex = some index → index < count) {pick : Nat}
    (picks : pick? cancelIndex selected event = some pick) : pick < count := by
  unfold pick? at picks
  split at picks
  · cases picks
    exact inside
  · split at picks
    · exact cancels pick picks
    · cases picks

theorem open_of_pos (positive : 0 < count) : ¬ (count = 0 ∨ (none : Option Nat).isSome = true) := by
  simp only [Option.isSome_none, Bool.false_eq_true, or_false]
  omega

theorem listen_decides (positive : 0 < count) (decision : decides cancelIndex event = true) :
    listen count cancelIndex ⟨selected, none⟩ event =
      ⟨selected, pick? cancelIndex selected event⟩ := by
  unfold listen
  rw [if_neg (open_of_pos positive)]
  cases event with
  | keyPressed key =>
    cases key with
    | action => rfl
    | cancel =>
      cases cancelIndex with
      | none => cases decision
      | some index => rfl
    | _ => cases decision
  | _ => cases decision

/-- An event that picks nothing moves the selection at most, around the ends. -/
theorem listen_undecided (inside : selected < count)
    (undecided : decides cancelIndex event = false) :
    ∃ next, listen count cancelIndex ⟨selected, none⟩ event = ⟨next, none⟩ ∧
      (next : Int) = (selected + descent [event]) % count := by
  have still : (selected : Int) = (selected + 0) % count := by
    rw [Int.add_zero, Int.emod_eq_of_lt (by omega) (by omega)]
  unfold listen
  rw [if_neg (open_of_pos (by omega))]
  cases event with
  | keyPressedAndRepeat key =>
    cases key with
    | up =>
      refine ⟨_, rfl, ?_⟩
      have around : ((selected + count - 1 : Nat) : Int) = selected + -1 + count := by omega
      rw [Int.natCast_emod, around, Int.add_emod_right]
      rfl
    | down => exact ⟨_, rfl, Int.natCast_emod _ _⟩
    | _ => exact ⟨selected, rfl, still⟩
  | keyPressed key =>
    cases key with
    | action => cases undecided
    | cancel =>
      cases cancelIndex with
      | none => exact ⟨selected, rfl, still⟩
      | some index => cases undecided
    | _ => exact ⟨selected, rfl, still⟩
  | _ => exact ⟨selected, rfl, still⟩

theorem listen_picked {menu : Menu} (picked : menu.picked.isSome = true) :
    listen count cancelIndex menu event = menu := by
  unfold listen
  rw [if_pos (.inr picked)]

theorem foldl_listen_picked {menu : Menu} (picked : menu.picked.isSome = true)
    (events : List InputEvent) : events.foldl (listen count cancelIndex) menu = menu := by
  induction events with
  | nil => rfl
  | cons event events ih => rw [List.foldl_cons, listen_picked picked, ih]

theorem foldl_listen_undecided (positive : 0 < count) (events : List InputEvent)
    (undecided : ∀ event ∈ events, decides cancelIndex event = false) :
    ∃ selected, events.foldl (listen count cancelIndex) fresh = ⟨selected, none⟩ ∧
      (selected : Int) = descent events % count := by
  induction events using List.reverseRecOn with
  | nil => exact ⟨0, rfl, rfl⟩
  | append_singleton events event ih =>
    rw [List.forall_mem_append, List.forall_mem_singleton] at undecided
    obtain ⟨selected, before, place⟩ := ih undecided.1
    have inside := lt_of_emod positive place
    obtain ⟨next, heard, moved⟩ := listen_undecided inside undecided.2
    refine ⟨next, ?_, ?_⟩
    · rw [List.foldl_append, before]
      exact heard
    · rw [moved, place, Int.emod_add_emod, descent_append]

theorem lines_marks (choices : List String) (menu : Menu) :
    Marks choices menu.selected (menu.lines choices) := by
  have listed (index : Nat) : (menu.lines choices)[index]? = choices[index]?.map
      (fun label => (if index = menu.selected then "> " else "  ") ++ label) := by
    simp [lines, Function.comp_def]
  refine ⟨by simp [lines], fun index label known => ?_, fun index line known => ?_⟩
  · rw [listed, known, Option.map_some]
    by_cases here : index = menu.selected
    · exact .inl (by rw [if_pos here])
    · exact .inr (by rw [if_neg here])
  · rw [listed] at known
    obtain ⟨label, _, rfl⟩ := Option.map_eq_some_iff.mp known
    by_cases here : index = menu.selected
    · simp [here]
    · simp [here]

end Menu

end TileScript
