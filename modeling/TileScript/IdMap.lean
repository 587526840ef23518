namespace TileScript

def Ascending {α : Type} (entries : List (Nat × α)) : Prop :=
  entries.Pairwise (fun a b => a.1 < b.1)

namespace Ascending

variable {α : Type}

def place (id : Nat) (value : α) : List (Nat × α) → List (Nat × α)
  | [] => [(id, value)]
  | entry :: rest =>
    if id < entry.1 then (id, value) :: entry :: rest
    else if id = entry.1 then (id, value) :: rest
    else entry :: place id value rest

theorem mem_place {id : Nat} {value : α} {entry : Nat × α} {entries : List (Nat × α)}
    (member : entry ∈ place id value entries) : entry = (id, value) ∨ entry ∈ entries := by
  induction entries with
  | nil => simpa [place] using member
  | cons head tail ih =>
    rw [place] at member
    split at member
    · simpa using member
    · split at member
      · simp only [List.mem_cons] at member ⊢
        rcases member with h | h
        · exact .inl h
        · exact .inr (.inr h)
      · simp only [List.mem_cons] at member ⊢
        rcases member with h | h
        · exact .inr (.inl h)
        · rcases ih h with h | h
          · exact .inl h
          · exact .inr (.inr h)

theorem place_ascending (id : Nat) (value : α) {entries : List (Nat × α)}
    (ascending : Ascending entries) : Ascending (place id value entries) := by
  induction entries with
  | nil => simp [place, Ascending]
  | cons head tail ih =>
    have below := (List.pairwise_cons.mp ascending).1
    have rest := (List.pairwise_cons.mp ascending).2
    rw [place]
    split
    · rename_i smaller
      refine List.pairwise_cons.mpr ⟨?_, ascending⟩
      intro entry member
      rcases List.mem_cons.mp member with rfl | member
      · exact smaller
      · exact Nat.lt_trans smaller (below entry member)
    · split
      · rename_i same
        exact List.pairwise_cons.mpr ⟨fun entry member => same ▸ below entry member, rest⟩
      · rename_i notSmaller different
        refine List.pairwise_cons.mpr ⟨?_, ih rest⟩
        intro entry member
        rcases mem_place member with rfl | member
        · exact Nat.lt_of_le_of_ne (Nat.le_of_not_lt notSmaller) (Ne.symm different)
        · exact below entry member

/-- Changing values keeps the order of the ids. -/
theorem map_values {β : Type} (change : Nat × α → β) {entries : List (Nat × α)}
    (ascending : Ascending entries) :
    Ascending (entries.map (fun entry => (entry.1, change entry))) :=
  List.pairwise_map.mpr (List.Pairwise.imp id ascending)

end Ascending

structure IdMap (α : Type) where
  entries : List (Nat × α)
  ascending : Ascending entries

namespace IdMap

variable {α : Type}

@[ext]
theorem ext {left right : IdMap α} (same : left.entries = right.entries) : left = right := by
  cases left; cases right; cases same; rfl

def empty : IdMap α := ⟨[], List.Pairwise.nil⟩

instance : EmptyCollection (IdMap α) := ⟨empty⟩

instance : Inhabited (IdMap α) := ⟨empty⟩

def get? (map : IdMap α) (id : Nat) : Option α :=
  (map.entries.find? (·.1 == id)).map (·.2)

def contains (map : IdMap α) (id : Nat) : Bool :=
  map.entries.any (·.1 == id)

def insert (map : IdMap α) (id : Nat) (value : α) : IdMap α :=
  ⟨Ascending.place id value map.entries, Ascending.place_ascending id value map.ascending⟩

def erase (map : IdMap α) (id : Nat) : IdMap α :=
  ⟨map.entries.filter (·.1 != id), map.ascending.filter _⟩

def mapValues (change : α → α) (map : IdMap α) : IdMap α :=
  ⟨map.entries.map (fun entry => (entry.1, change entry.2)), map.ascending.map_values _⟩

def modify (map : IdMap α) (id : Nat) (change : α → α) : IdMap α :=
  ⟨map.entries.map (fun entry => (entry.1, if entry.1 = id then change entry.2 else entry.2)),
    map.ascending.map_values (fun entry => if entry.1 = id then change entry.2 else entry.2)⟩

def ids (map : IdMap α) : List Nat := map.entries.map (·.1)

def values (map : IdMap α) : List α := map.entries.map (·.2)

def size (map : IdMap α) : Nat := map.entries.length

/-- The map that holds each pair of the list; a later pair replaces an earlier one. -/
def ofList (pairs : List (Nat × α)) : IdMap α :=
  pairs.foldl (fun map pair => map.insert pair.1 pair.2) empty

end IdMap

end TileScript
