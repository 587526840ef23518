import Mathlib.Data.List.Basic
import TileScript.Proofs.World.Objects

namespace TileScript.Clock

def make (clock : Clock) : Nat × Bool × List Value :=
  (clock.interval, clock.repeats, clock.parameters)

theorem mem_due {clocks : List Clock} {place : Nat} {parameters : List Value}
    (listed : (place, parameters) ∈ due clocks) :
    ∃ clock, clocks[place]? = some clock ∧ clock.isDue = true ∧ clock.parameters = parameters := by
  obtain ⟨⟨clock, index⟩, found, same⟩ := List.mem_map.mp listed
  cases same
  obtain ⟨indexed, due⟩ := List.mem_filter.mp found
  exact ⟨clock, List.mk_mem_zipIdx_iff_getElem?.mp indexed, due, rfl⟩

theorem append_of_getElem? {clocks : List Clock} {index : Nat} {clock : Clock}
    (found : clocks[index]? = some clock) :
    ∃ front back, clocks = front ++ clock :: back ∧ front.length = index := by
  obtain ⟨within, rfl⟩ := List.getElem?_eq_some_iff.mp found
  refine ⟨clocks.take index, clocks.drop (index + 1), ?_, ?_⟩
  · rw [← List.drop_eq_getElem_cons within, List.take_append_drop]
  · exact List.length_take_of_le (Nat.le_of_lt within)

/-- What firing leaves of a clock: one that repeats starts over, any other is gone. -/
def fired? (clock : Clock) : Option Clock :=
  if clock.repeats then some { clock with elapsed := 0 } else none

theorem fire_append (front back : List Clock) (clock : Clock) :
    fire (front ++ clock :: back) front.length = front ++ (clock.fired?.toList ++ back) := by
  have found : (front ++ clock :: back)[front.length]? = some clock := by simp
  unfold fire fired?
  rw [found]
  dsimp only
  split
  · simp
  · rw [List.eraseIdx_append_of_length_le (Nat.le_refl _), Nat.sub_self]
    rfl

def firingOrder (indices : List Nat) : List Nat :=
  (IdMap.ofList (indices.map (fun index => (index, ())))).ids.reverse

theorem firingOrder_falls (indices : List Nat) :
    (firingOrder indices).Pairwise (fun earlier later => later < earlier) :=
  List.pairwise_reverse.mpr (List.pairwise_map.mpr (IdMap.ascending _))

theorem mem_firingOrder {indices : List Nat} {index : Nat} :
    index ∈ firingOrder indices ↔ index ∈ indices := by
  rw [firingOrder, List.mem_reverse, IdMap.mem_ids_ofList]
  simp

/-- What is left of the clock at a position when the clocks at some positions have fired. -/
def left? (indices : List Nat) (entry : Clock × Nat) : Option Clock :=
  if entry.2 ∈ indices then entry.1.fired? else some entry.1

theorem left?_cons_of_ne {index : Nat} {rest : List Nat} {entry : Clock × Nat}
    (elsewhere : entry.2 ≠ index) : left? (index :: rest) entry = left? rest entry := by
  simp [left?, elsewhere]

theorem filterMap_left?_of_lt {indices : List Nat} {start : Nat}
    (before : ∀ index ∈ indices, index < start) (clocks : List Clock) :
    (clocks.zipIdx start).filterMap (left? indices) = clocks := by
  induction clocks generalizing start with
  | nil => rfl
  | cons clock rest ih =>
    have spared : start ∉ indices := fun fires => Nat.lt_irrefl _ (before start fires)
    have kept : left? indices (clock, start) = some clock := if_neg spared
    rw [List.zipIdx_cons, List.filterMap_cons_some kept]
    rw [ih fun index fires => Nat.lt_succ_of_lt (before index fires)]

theorem filterMap_left?_of_length_le {clocks : List Clock} {index : Nat}
    (beyond : clocks.length ≤ index) (rest : List Nat) :
    clocks.zipIdx.filterMap (left? (index :: rest)) = clocks.zipIdx.filterMap (left? rest) := by
  apply List.filterMap_congr
  intro entry member
  have within := List.snd_lt_of_mem_zipIdx member
  exact left?_cons_of_ne (by omega)

/-- Firing the clock at the highest position settles that position, whatever is to fire below. -/
theorem filterMap_left?_fire {index : Nat} {rest : List Nat}
    (below : ∀ other ∈ rest, other < index) (clocks : List Clock) :
    (fire clocks index).zipIdx.filterMap (left? rest) =
      clocks.zipIdx.filterMap (left? (index :: rest)) := by
  cases found : clocks[index]? with
  | none =>
    have beyond : clocks.length ≤ index := List.getElem?_eq_none_iff.mp found
    rw [filterMap_left?_of_length_le beyond]
    simp only [fire, found]
  | some clock =>
    obtain ⟨front, back, rfl, rfl⟩ := append_of_getElem? found
    have here : left? (front.length :: rest) (clock, front.length) = clock.fired? :=
      if_pos List.mem_cons_self
    have behind : (back.zipIdx (front.length + 1)).filterMap (left? (front.length :: rest)) =
        back := by
      apply filterMap_left?_of_lt
      intro other fires
      rcases List.mem_cons.mp fires with rfl | lower
      · exact Nat.lt_succ_self _
      · exact Nat.lt_succ_of_lt (below other lower)
    -- What fires below the position cannot tell whether the clock there has gone.
    rw [fire_append, List.zipIdx_append, List.filterMap_append, Nat.zero_add,
      filterMap_left?_of_lt below]
    rw [List.zipIdx_append, List.filterMap_append, Nat.zero_add,
      filterMap_left?_of_length_le (Nat.le_refl _)]
    rw [List.zipIdx_cons, List.filterMap_cons, here, behind]
    cases clock.fired? <;> rfl

theorem foldl_fire_eq {indices : List Nat}
    (falling : indices.Pairwise (fun earlier later => later < earlier)) (clocks : List Clock) :
    indices.foldl fire clocks = clocks.zipIdx.filterMap (left? indices) := by
  induction indices generalizing clocks with
  | nil => exact (filterMap_left?_of_lt (List.forall_mem_nil _) clocks).symm
  | cons index rest ih =>
    obtain ⟨below, lower⟩ := List.pairwise_cons.mp falling
    rw [List.foldl_cons, ih lower, filterMap_left?_fire below]

/-- The one thing to know about firing clocks: what is left, position by position. -/
theorem fireAll_eq_filterMap (clocks : List Clock) (indices : List Nat) :
    fireAll clocks indices = clocks.zipIdx.filterMap (left? (firingOrder indices)) :=
  foldl_fire_eq (firingOrder_falls indices) clocks

theorem left?_cases {indices : List Nat} {place : Nat} {old clock : Clock}
    (left : left? indices (old, place) = some clock) :
    clock.make = old.make ∧
      (place ∉ indices ∧ clock = old ∨ clock.repeats = true ∧ clock.elapsed = 0) := by
  unfold left? fired? at left
  split at left
  · split at left
    · rename_i repeats
      cases left
      exact ⟨rfl, .inr ⟨repeats, rfl⟩⟩
    · cases left
  · rename_i spared
    cases left
    exact ⟨rfl, .inl ⟨spared, rfl⟩⟩

theorem exists_of_mem_fireAll {clocks : List Clock} {indices : List Nat} {clock : Clock}
    (member : clock ∈ fireAll clocks indices) :
    ∃ place old, clocks[place]? = some old ∧
      left? (firingOrder indices) (old, place) = some clock := by
  rw [fireAll_eq_filterMap] at member
  obtain ⟨⟨old, place⟩, indexed, left⟩ := List.mem_filterMap.mp member
  exact ⟨place, old, List.mk_mem_zipIdx_iff_getElem?.mp indexed, left⟩

theorem fireAll_makes (clocks : List Clock) (indices : List Nat) :
    ((fireAll clocks indices).map make).Sublist (clocks.map make) := by
  rw [fireAll_eq_filterMap]
  generalize 0 = start
  induction clocks generalizing start with
  | nil => exact .refl _
  | cons clock rest ih =>
    rw [List.zipIdx_cons, List.filterMap_cons]
    cases left : left? (firingOrder indices) (clock, start) with
    | none => exact (ih _).cons _
    | some kept =>
      rw [List.map_cons, List.map_cons, (left?_cases left).1]
      exact (ih _).cons_cons _

theorem mem_fireAll {clocks : List Clock} {indices : List Nat} {clock : Clock}
    (member : clock ∈ fireAll clocks indices) :
    clock ∈ clocks ∨ clock.repeats = true ∧ clock.elapsed = 0 := by
  obtain ⟨place, old, found, left⟩ := exists_of_mem_fireAll member
  rcases (left?_cases left).2 with ⟨_, rfl⟩ | fresh
  · exact .inl (List.mem_of_getElem? found)
  · exact .inr fresh

theorem place_unique {clocks : List Clock} {kind : Clock → Bool} (single : clocks.countP kind ≤ 1)
    {first second : Nat} {one other : Clock} (here : clocks[first]? = some one)
    (there : clocks[second]? = some other) (alike : kind one = true) (same : kind other = true) :
    first = second := by
  obtain ⟨front, back, rfl, rfl⟩ := append_of_getElem? here
  rw [List.countP_append, List.countP_cons_of_pos alike] at single
  have ahead := List.countP_eq_zero.mp (show front.countP kind = 0 by omega)
  have behind := List.countP_eq_zero.mp (show back.countP kind = 0 by omega)
  rcases Nat.lt_trichotomy second front.length with before | rfl | after
  · rw [List.getElem?_append_left before] at there
    exact absurd same (ahead other (List.mem_of_getElem? there))
  · rfl
  · obtain ⟨gap, rfl⟩ := Nat.exists_eq_add_of_lt after
    rw [List.getElem?_append_right (by omega)] at there
    have member : other ∈ back := by
      apply List.mem_of_getElem? (i := gap)
      rw [← there]
      simp [Nat.add_assoc]
    exact absurd same (behind other member)

/-- If there is one clock of a kind and it fires, whichever is left of the kind has started over. -/
theorem fireAll_spends {clocks : List Clock} {indices : List Nat} {place : Nat} {clock : Clock}
    {kind : Nat × Bool × List Value → Bool} (found : clocks[place]? = some clock)
    (listed : kind clock.make = true) (fires : place ∈ indices)
    (single : (clocks.map make).countP kind ≤ 1) :
    ∀ other ∈ fireAll clocks indices, kind other.make = true →
      other.repeats = true ∧ other.elapsed = 0 := by
  intro other member same
  obtain ⟨spot, old, here, left⟩ := exists_of_mem_fireAll member
  obtain ⟨_, ⟨spared, rfl⟩ | fresh⟩ := left?_cases left
  · rw [List.countP_map] at single
    have one := place_unique single found here listed same
    exact absurd (mem_firingOrder.mpr (one ▸ fires)) spared
  · exact fresh

end TileScript.Clock

namespace TileScript.MapObject

/--
Firing clocks drops those named that do not repeat, restarts those named that do, and keeps all
others as they are and in their order; nothing else about the object changes.
-/
theorem fireClocks_drops_or_restarts_named (object : MapObject) (indices : List Nat) :
    object.fireClocks indices =
      { object with clocks := object.clocks.zipIdx.filterMap (Clock.left? indices) } := by
  have same : Clock.left? (Clock.firingOrder indices) = Clock.left? indices := by
    funext entry
    simp only [Clock.left?, Clock.mem_firingOrder]
  rw [fireClocks, Clock.fireAll_eq_filterMap, same]

/-- A clock that goes does not hand its place on: the one behind it starts over all the same. -/
example (object : MapObject) (first middle last : Clock) :
    ({ object with clocks := [{ first with repeats := false }, { middle with repeats := true },
      last] }.fireClocks [1, 0, 1, 7]).clocks =
        [{ middle with repeats := true, elapsed := 0 }, last] := rfl

end TileScript.MapObject
