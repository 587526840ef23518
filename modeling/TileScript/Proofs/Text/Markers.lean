import Mathlib.Data.Nat.Digits.Defs
import TileScript.Text.Markers

namespace TileScript.Markers

def Decimal (digits : List Char) (id : Nat) : Prop :=
  digits ≠ [] ∧ (∀ digit ∈ digits, digit.isDigit = true) ∧
    Nat.ofDigits 10 (digits.reverse.map (fun digit => digit.toNat - '0'.toNat)) = id ∧ id < 2 ^ 32

def Names (inside : List Char) (id : Nat) : Prop :=
  Decimal inside id ∨ ∃ digits, inside = '+' :: digits ∧ Decimal digits id

/-- A text begins with a marker of a variable, which ends at the first closing bracket. -/
def Begins (text : List Char) (id : Nat) (rest : List Char) : Prop :=
  ∃ inside, text = '\\' :: 'v' :: '[' :: (inside ++ ']' :: rest) ∧ ']' ∉ inside ∧ Names inside id

inductive Piece where
  | letter (char : Char)
  | value (id : Nat)

/-- A text read from left to right, a marker wherever one begins and else a character at a time. -/
inductive Reads : List Char → List Piece → Prop
  | done : Reads [] []
  | marker {text rest : List Char} {id : Nat} {pieces : List Piece} (begins : Begins text id rest)
      (onward : Reads rest pieces) : Reads text (.value id :: pieces)
  | plain {char : Char} {rest : List Char} {pieces : List Piece}
      (unmarked : ∀ id after, ¬ Begins (char :: rest) id after) (onward : Reads rest pieces) :
      Reads (char :: rest) (.letter char :: pieces)

def Piece.shown (world : World) : Piece → List Char
  | letter char => [char]
  | value id =>
    match world.valueOf id with
    | .text words => words.toList
    | other => other.display.toList

theorem Piece.shown_value (world : World) (id : Nat) :
    (Piece.value id).shown world = (world.valueOf id).inline.toList := by
  rw [shown]
  cases world.valueOf id <;> rfl

theorem digitsValue_eq (digits : List Char) :
    digitsValue digits =
      Nat.ofDigits 10 (digits.reverse.map (fun digit => digit.toNat - '0'.toNat)) := by
  rw [digitsValue, Nat.ofDigits_eq_foldr, List.foldr_map, List.foldr_reverse]
  congr 1
  funext value digit
  exact Nat.add_comm ..

theorem decimal_iff {digits : List Char} {id : Nat} :
    (if digits.isEmpty || !digits.all Char.isDigit then none
      else if digitsValue digits < 4294967296 then some (digitsValue digits) else none) = some id ↔
      Decimal digits id := by
  rw [Decimal, ← digitsValue_eq]
  by_cases empty : digits = []
  · simp [empty]
  · by_cases numeric : ∀ digit ∈ digits, digit.isDigit = true
    · have passes : digits.all Char.isDigit = true := List.all_eq_true.mpr numeric
      rw [List.isEmpty_eq_false_iff.mpr empty, passes, if_neg (by decide)]
      constructor
      · intro reads
        split at reads
        · rename_i small
          cases reads
          exact ⟨empty, numeric, rfl, small⟩
        · cases reads
      · rintro ⟨_, _, rfl, small⟩
        exact if_pos small
    · have fails : digits.all Char.isDigit = false := by
        rw [← Bool.not_eq_true, List.all_eq_true]
        exact numeric
      simp [fails, numeric]

theorem readUnsigned?_eq_some_iff {inside : List Char} {id : Nat} :
    readUnsigned? 4294967296 inside = some id ↔ Names inside id := by
  unfold readUnsigned? Names
  split
  · rename_i digits
    rw [decimal_iff]
    constructor
    · intro decimal
      exact .inr ⟨digits, rfl, decimal⟩
    · rintro (⟨_, signed, _⟩ | ⟨_, ⟨⟩, decimal⟩)
      · exact absurd (signed '+' List.mem_cons_self) (by decide)
      · exact decimal
  · rename_i unsigned
    rw [decimal_iff]
    constructor
    · exact .inl
    · rintro (decimal | ⟨digits, rfl, _⟩)
      · exact decimal
      · exact absurd rfl (unsigned digits)

theorem splitClosing?_eq_some_iff {text inside rest : List Char} :
    splitClosing? text = some (inside, rest) ↔ text = inside ++ ']' :: rest ∧ ']' ∉ inside := by
  fun_induction splitClosing? text generalizing inside with
  | case1 => simp
  | case2 after =>
    cases inside with
    | nil => simp [eq_comm]
    | cons char inside =>
      simp only [Option.some.injEq, Prod.mk.injEq, reduceCtorEq, false_and, List.cons_append,
        List.cons.injEq, List.mem_cons, not_or, false_iff]
      rintro ⟨⟨same, _⟩, other, _⟩
      exact other same
  | case3 char after other ih =>
    cases inside with
    | nil =>
      constructor
      · intro found
        obtain ⟨_, _, ⟨⟩⟩ := Option.map_eq_some_iff.mp found
      · rintro ⟨⟨⟩, _⟩
        exact absurd rfl other
    | cons first inside =>
      rw [List.cons_append, List.cons.injEq, List.mem_cons, not_or, Option.map_eq_some_iff]
      constructor
      · rintro ⟨_, found, ⟨⟩⟩
        obtain ⟨split, absent⟩ := ih.mp found
        exact ⟨⟨rfl, split⟩, Ne.symm other, absent⟩
      · rintro ⟨⟨rfl, split⟩, _, absent⟩
        exact ⟨(inside, rest), ih.mpr ⟨split, absent⟩, rfl⟩

theorem named?_eq_some_iff {after rest : List Char} {id : Nat} :
    named? after = some (id, rest) ↔
      ∃ inside, after = inside ++ ']' :: rest ∧ ']' ∉ inside ∧ Names inside id := by
  unfold named?
  constructor
  · intro named
    split at named
    · cases named
    · rename_i inside outside closed
      obtain ⟨number, reads, same⟩ := Option.map_eq_some_iff.mp named
      cases same
      obtain ⟨rfl, first⟩ := splitClosing?_eq_some_iff.mp closed
      exact ⟨inside, rfl, first, readUnsigned?_eq_some_iff.mp reads⟩
  · rintro ⟨inside, split, first, names⟩
    rw [splitClosing?_eq_some_iff.mpr ⟨split, first⟩]
    simp only [readUnsigned?_eq_some_iff.mpr names, Option.map_some]

theorem begins_iff {text rest : List Char} {id : Nat} :
    Begins text id rest ↔
      ∃ after, text = '\\' :: 'v' :: '[' :: after ∧ named? after = some (id, rest) := by
  constructor
  · rintro ⟨inside, rfl, absent, names⟩
    exact ⟨_, rfl, named?_eq_some_iff.mpr ⟨inside, rfl, absent, names⟩⟩
  · rintro ⟨after, rfl, named⟩
    obtain ⟨inside, rfl, absent, names⟩ := named?_eq_some_iff.mp named
    exact ⟨inside, rfl, absent, names⟩

theorem replace_eq (valueOf : Nat → List Char) (text : List Char) :
    replace valueOf text =
      match splitOpening? text with
      | none => text
      | some (before, after) =>
        match named? after with
        | none => before ++ '\\' :: 'v' :: '[' :: replace valueOf after
        | some (id, rest) => before ++ valueOf id ++ replace valueOf rest := by
  rw [replace]
  split
  · simp [*]
  · rename_i opening
    rw [opening]
    split <;> simp [*]

theorem replace_marker {valueOf : Nat → List Char} {text rest : List Char} {id : Nat}
    (begins : Begins text id rest) : replace valueOf text = valueOf id ++ replace valueOf rest := by
  obtain ⟨after, rfl, named⟩ := begins_iff.mp begins
  rw [replace_eq, splitOpening?]
  simp [named]

/-- Where no opening begins, the search for one passes over a character. -/
theorem replace_cons {valueOf : Nat → List Char} {char : Char} {rest : List Char}
    (passes : splitOpening? (char :: rest) =
      (splitOpening? rest).map (fun (before, after) => (char :: before, after))) :
    replace valueOf (char :: rest) = char :: replace valueOf rest := by
  rw [replace_eq, passes, replace_eq valueOf rest]
  cases splitOpening? rest with
  | none => rfl
  | some found =>
    obtain ⟨before, after⟩ := found
    simp only [Option.map_some]
    cases named? after <;> rfl

theorem replace_plain {valueOf : Nat → List Char} {char : Char} {rest : List Char}
    (unmarked : ∀ id after, ¬ Begins (char :: rest) id after) :
    replace valueOf (char :: rest) = char :: replace valueOf rest := by
  by_cases opens : ∃ after, char :: rest = '\\' :: 'v' :: '[' :: after
  · -- An opening without a marker is passed over as the three characters it consists of.
    obtain ⟨after, ⟨⟩⟩ := opens
    have unnamed : named? after = none := by
      refine Option.eq_none_iff_forall_not_mem.mpr fun ⟨id, rest⟩ named => ?_
      exact unmarked id rest (begins_iff.mpr ⟨after, rfl, named⟩)
    have second : replace valueOf ('v' :: '[' :: after) = 'v' :: replace valueOf ('[' :: after) :=
      replace_cons (by simp [splitOpening?])
    have third : replace valueOf ('[' :: after) = '[' :: replace valueOf after :=
      replace_cons (by simp [splitOpening?])
    rw [second, third, replace_eq, splitOpening?]
    simp [unnamed]
  · refine replace_cons ?_
    rw [splitOpening?]
    rintro after rfl rfl
    exact opens ⟨after, rfl⟩

theorem begins_unique {text first second : List Char} {id other : Nat}
    (one : Begins text id first) (again : Begins text other second) :
    id = other ∧ first = second := by
  obtain ⟨after, rfl, named⟩ := begins_iff.mp one
  obtain ⟨_, ⟨⟩, same⟩ := begins_iff.mp again
  cases named.symm.trans same
  exact ⟨rfl, rfl⟩

theorem reads_unique {text : List Char} {first second : List Piece} (one : Reads text first)
    (again : Reads text second) : first = second := by
  induction one generalizing second with
  | done =>
    cases again with
    | done => rfl
    | marker begins =>
      obtain ⟨_, ⟨⟩, _⟩ := begins
  | marker begins onward ih =>
    cases again with
    | done =>
      obtain ⟨_, ⟨⟩, _⟩ := begins
    | marker same further =>
      obtain ⟨rfl, rfl⟩ := begins_unique begins same
      rw [ih further]
    | plain unmarked => exact absurd begins (unmarked _ _)
  | plain unmarked onward ih =>
    cases again with
    | marker begins => exact absurd begins (unmarked _ _)
    | plain _ further => rw [ih further]

theorem length_of_begins {text rest : List Char} {id : Nat} (begins : Begins text id rest) :
    rest.length < text.length := by
  obtain ⟨inside, rfl, _⟩ := begins
  simp only [List.length_cons, List.length_append]
  omega

theorem reads_text (text : List Char) : ∃ pieces, Reads text pieces := by
  generalize bound : text.length = length
  induction length using Nat.strongRecOn generalizing text with
  | ind length ih =>
    by_cases marked : ∃ id rest, Begins text id rest
    · obtain ⟨id, rest, begins⟩ := marked
      obtain ⟨pieces, onward⟩ := ih rest.length (bound ▸ length_of_begins begins) rest rfl
      exact ⟨.value id :: pieces, .marker begins onward⟩
    · cases text with
      | nil => exact ⟨[], .done⟩
      | cons char rest =>
        have unmarked : ∀ id after, ¬ Begins (char :: rest) id after :=
          fun id after begins => marked ⟨id, after, begins⟩
        obtain ⟨pieces, onward⟩ := ih rest.length (bound ▸ Nat.lt_succ_self _) rest rfl
        exact ⟨.letter char :: pieces, .plain unmarked onward⟩

theorem replace_reads {world : World} {text : List Char} {pieces : List Piece}
    (reads : Reads text pieces) :
    replace (fun id => (world.valueOf id).inline.toList) text = pieces.flatMap (·.shown world) := by
  induction reads with
  | done =>
    rw [replace_eq]
    rfl
  | marker begins onward ih =>
    rw [replace_marker begins, ih, List.flatMap_cons]
    rw [Piece.shown_value]
  | plain unmarked onward ih =>
    rw [replace_plain unmarked, ih]
    rfl

theorem reads_unmarked {text : List Char} {pieces : List Piece} (reads : Reads text pieces)
    (unmarked : ∀ suffix, suffix <:+ text → ∀ id rest, ¬ Begins suffix id rest) :
    pieces = text.map .letter := by
  induction reads with
  | done => rfl
  | marker begins => exact absurd begins (unmarked _ List.suffix_rfl _ _)
  | plain _ onward ih =>
    rw [List.map_cons, ih fun suffix ends => unmarked suffix (ends.trans (List.suffix_cons ..))]

theorem flatMap_letters (world : World) (text : List Char) :
    (text.map Piece.letter).flatMap (·.shown world) = text := by
  induction text with
  | nil => rfl
  | cons char rest ih =>
    rw [List.map_cons, List.flatMap_cons, ih]
    rfl

/--
Every text has exactly one reading, the same in all worlds, and a message shows what its pieces
stand for; a text in which no marker begins is shown as it is.
-/
theorem expand_shows_reading (text : String) :
    ∃ pieces, Reads text.toList pieces ∧ (∀ other, Reads text.toList other → other = pieces) ∧
      (∀ world, expand world text = String.ofList (pieces.flatMap (·.shown world))) ∧
      ((∀ suffix, suffix <:+ text.toList → ∀ id rest, ¬ Begins suffix id rest) →
        ∀ world, expand world text = text) := by
  obtain ⟨pieces, reads⟩ := reads_text text.toList
  have shows : ∀ world, expand world text = String.ofList (pieces.flatMap (·.shown world)) :=
    fun world => congrArg String.ofList (replace_reads reads)
  refine ⟨pieces, reads, fun other again => reads_unique again reads, shows, ?_⟩
  intro unmarked world
  rw [shows, reads_unmarked reads unmarked, flatMap_letters, String.ofList_toList]

def quoting : World := World.setVariable {} 1 (.text "\\v[2]")

theorem marker_in_marker_read_once :
    (∀ world, expand world "\\v[x]" = "\\v[x]") ∧
      ∃ pieces, Reads "\\v[\\v[+1]]".toList pieces ∧
        String.ofList (pieces.flatMap (·.shown quoting)) = "\\v[\\v[2]]" := by
  constructor
  · obtain ⟨_, _, _, _, unchanged⟩ := expand_shows_reading "\\v[x]"
    refine unchanged fun suffix ends id rest begins => ?_
    obtain ⟨after, rfl, named⟩ := begins_iff.mp begins
    have inside : after = ['x', ']'] := by simpa [List.suffix_cons_iff] using ends
    have none : named? ['x', ']'] = Option.none := by decide
    cases (inside ▸ named).symm.trans none
  · obtain ⟨pieces, reads, _, shows, _⟩ := expand_shows_reading "\\v[\\v[+1]]"
    have shown : expand quoting "\\v[\\v[+1]]" = "\\v[\\v[2]]" := by decide +kernel
    exact ⟨pieces, reads, (shows quoting).symm.trans shown⟩

end TileScript.Markers
