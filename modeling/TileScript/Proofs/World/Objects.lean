import TileScript.World

namespace TileScript

namespace IdMap

variable {α : Type}

theorem get?_modify (map : IdMap α) (id key : Nat) (change : α → α) :
    (map.modify id change).get? key =
      if key = id then (map.get? key).map change else map.get? key := by
  simp only [get?, modify, List.find?_map, Function.comp_def]
  cases found : map.entries.find? (fun entry => entry.1 == key) with
  | none => simp
  | some entry =>
    have named : entry.1 = key := by
      simpa using List.find?_some found
    by_cases same : key = id <;> simp [named, same]

theorem get?_mapValues (map : IdMap α) (key : Nat) (change : α → α) :
    (map.mapValues change).get? key = (map.get? key).map change := by
  simp only [get?, mapValues, List.find?_map, Option.map_map]
  rfl

theorem get?_erase (map : IdMap α) (id key : Nat) :
    (map.erase id).get? key = if key = id then none else map.get? key := by
  simp only [get?, erase, List.find?_filter]
  split
  · rename_i same
    subst same
    simp
  · rename_i other
    congr 2
    funext entry
    by_cases named : entry.1 = key <;> simp [named, other]

theorem find?_place (id key : Nat) (value : α) (entries : List (Nat × α)) :
    ((Ascending.place id value entries).find? (·.1 == key)).map (·.2) =
      if key = id then some value else (entries.find? (·.1 == key)).map (·.2) := by
  induction entries with
  | nil => by_cases same : key = id <;> simp [Ascending.place, same, Ne.symm]
  | cons entry rest ih =>
    rw [Ascending.place]
    split
    · by_cases same : key = id <;> simp [List.find?_cons, same, Ne.symm]
    · split
      · rename_i replaced
        by_cases same : key = id <;> simp [same, Ne.symm, ← replaced]
      · rename_i other
        by_cases named : entry.1 = key
        · subst named
          simp [Ne.symm other]
        · simpa [List.find?_cons, named] using ih

theorem get?_insert (map : IdMap α) (id key : Nat) (value : α) :
    (map.insert id value).get? key = if key = id then some value else map.get? key :=
  find?_place id key value map.entries

theorem get?_eq_some_iff {map : IdMap α} {id : Nat} {value : α} :
    map.get? id = some value ↔ (id, value) ∈ map.entries := by
  obtain ⟨entries, ascending⟩ := map
  simp only [get?]
  constructor
  · intro found
    obtain ⟨entry, listed, rfl⟩ := Option.map_eq_some_iff.mp found
    have named : entry.1 = id := by simpa using List.find?_some listed
    exact named ▸ List.mem_of_find?_eq_some listed
  · intro member
    induction entries with
    | nil => cases member
    | cons entry rest ih =>
      obtain ⟨below, later⟩ := List.pairwise_cons.mp ascending
      rcases List.mem_cons.mp member with rfl | member
      · simp
      · have other : entry.1 ≠ id := Nat.ne_of_lt (below _ member)
        rw [List.find?_cons_of_neg (by simpa using other)]
        exact ih later member

theorem entries_nodup (map : IdMap α) : map.entries.Nodup := by
  refine map.ascending.imp fun {one other} below => ?_
  rintro rfl
  exact Nat.lt_irrefl _ below

/-- Maps with the same look-ups are equal. -/
theorem ext_get? {left right : IdMap α} (same : ∀ id, left.get? id = right.get? id) :
    left = right := by
  have members (entry : Nat × α) : entry ∈ left.entries ↔ entry ∈ right.entries := by
    rw [← get?_eq_some_iff, ← get?_eq_some_iff, same]
  have shuffled := (List.perm_ext_iff_of_nodup left.entries_nodup right.entries_nodup).mpr members
  refine ext (shuffled.eq_of_pairwise ?_ left.ascending right.ascending)
  intro one other _ _ below above
  exact absurd below (Nat.lt_asymm above)

theorem contains_iff (map : IdMap α) (id : Nat) :
    map.contains id = true ↔ ∃ value, map.get? id = some value := by
  rw [← Option.isSome_iff_exists]
  simp [contains, get?]

theorem get?_foldl_insert {pairs : List (Nat × α)} {map : IdMap α} {id : Nat} {value : α}
    (found : (pairs.foldl (fun map pair => map.insert pair.1 pair.2) map).get? id = some value) :
    (id, value) ∈ pairs ∨ map.get? id = some value := by
  induction pairs generalizing map with
  | nil => exact .inr found
  | cons pair rest ih =>
    rcases ih found with later | inserted
    · exact .inl (List.mem_cons_of_mem pair later)
    · rw [get?_insert] at inserted
      split at inserted
      · rename_i same
        cases inserted
        subst same
        exact .inl List.mem_cons_self
      · exact .inr inserted

theorem mem_of_get?_ofList {pairs : List (Nat × α)} {id : Nat} {value : α}
    (found : (ofList pairs).get? id = some value) : (id, value) ∈ pairs := by
  rcases get?_foldl_insert found with listed | none
  · exact listed
  · cases none

theorem get?_foldl_insert_isSome {pairs : List (Nat × α)} {map : IdMap α} {id : Nat}
    (known : id ∈ pairs.map (·.1) ∨ (map.get? id).isSome = true) :
    ((pairs.foldl (fun map pair => map.insert pair.1 pair.2) map).get? id).isSome = true := by
  induction pairs generalizing map with
  | nil => simpa using known
  | cons pair rest ih =>
    apply ih
    rw [get?_insert]
    rcases known with listed | present
    · rcases List.mem_cons.mp listed with rfl | later
      · simp
      · exact .inl later
    · right
      split
      · rfl
      · exact present

theorem contains_ofList {pairs : List (Nat × α)} {id : Nat} (listed : id ∈ pairs.map (·.1)) :
    (ofList pairs).contains id = true := by
  rw [contains_iff, ← Option.isSome_iff_exists]
  exact get?_foldl_insert_isSome (.inl listed)

theorem mem_ids_iff (map : IdMap α) (id : Nat) : id ∈ map.ids ↔ map.contains id = true := by
  simp [ids, contains]

theorem mem_ids_ofList {pairs : List (Nat × α)} {id : Nat} :
    id ∈ (ofList pairs).ids ↔ id ∈ pairs.map (·.1) := by
  rw [mem_ids_iff]
  constructor
  · intro known
    obtain ⟨value, found⟩ := (contains_iff _ id).mp known
    exact List.mem_map_of_mem (mem_of_get?_ofList found)
  · exact contains_ofList

end IdMap

inductive ObjectModel.Plays (model : ObjectModel) (reaction : Reaction) : Prop where
  | answer (handler : Handler) (known : handler ∈ model.handlers) (state : Nat)
      (reacts : handler.reactions.get? state = some reaction) : Plays model reaction
  | route (state : StateDef) (known : state ∈ model.states)
      (route : state.route = some reaction) : Plays model reaction

/-- A model declares the state its objects are in by default. -/
theorem ObjectModel.hasState_of_default {model : ObjectModel} {state : Nat}
    (active : state ∈ model.defaultStates) : model.hasState state = true := by
  obtain ⟨first, found, rfl⟩ := Option.map_eq_some_iff.mp (Option.mem_toList.mp active)
  have declared : first ∈ model.states := List.mem_of_head? found
  simp only [hasState, state?, List.find?_isSome]
  exact ⟨first, declared, beq_self_eq_true first.id⟩

namespace World

theorem object?_modifyObject (world : World) (id key : Nat) (change : MapObject → MapObject) :
    (world.modifyObject id change).object? key =
      if key = id then (world.object? key).map change else world.object? key :=
  IdMap.get?_modify world.objects id key change

theorem object?_insertObject (world : World) (object : MapObject) (key : Nat) :
    (world.insertObject object).object? key =
      if key = object.id then some object else world.object? key :=
  IdMap.get?_insert world.objects object.id key object

theorem object?_foldl_insertObject {objects : List MapObject} {world : World} {key : Nat}
    {object : MapObject} (present : (objects.foldl insertObject world).object? key = some object) :
    object ∈ objects ∨ world.object? key = some object := by
  induction objects generalizing world with
  | nil => exact .inr present
  | cons first rest ih =>
    rcases ih present with later | inserted
    · exact .inl (List.mem_cons_of_mem first later)
    · rw [object?_insertObject] at inserted
      split at inserted
      · cases inserted
        exact .inl List.mem_cons_self
      · exact .inr inserted

theorem foldl_insertObject (objects : List MapObject) (world : World) :
    ∃ known, objects.foldl insertObject world = { world with objects := known } := by
  induction objects generalizing world with
  | nil => exact ⟨world.objects, rfl⟩
  | cons first rest ih =>
    obtain ⟨known, same⟩ := ih (world.insertObject first)
    exact ⟨known, same⟩

theorem object?_foldl_erase {removals : List Nat} {objects : IdMap MapObject} {key : Nat}
    {object : MapObject} (found : (removals.foldl IdMap.erase objects).get? key = some object) :
    objects.get? key = some object := by
  induction removals generalizing objects with
  | nil => exact found
  | cons removal removals ih =>
    have kept := ih found
    rw [IdMap.get?_erase] at kept
    split at kept
    · cases kept
    · exact kept

theorem object?_endFrame {world : World} {key : Nat} {object : MapObject}
    (found : world.endFrame.object? key = some object) :
    ∃ before, world.object? key = some before ∧
      object = { before with receivedEvent := false } := by
  have kept := object?_foldl_erase found
  rw [IdMap.get?_mapValues] at kept
  obtain ⟨before, present, rfl⟩ := Option.map_eq_some_iff.mp kept
  exact ⟨before, present, rfl⟩

theorem object?_removeObject (world : World) (id key : Nat) :
    (world.removeObject id).object? key =
      if key = id then (world.object? key).map (fun object => { object with removed := true })
      else world.object? key := by
  unfold removeObject
  split
  · exact object?_modifyObject world id key _
  · rename_i missing
    split
    · rename_i same
      subst same
      have absent : world.object? key = none := by simpa using missing
      rw [absent]
      rfl
    · rfl

def Keeps {α : Type} (view : MapObject → α) (before after : World) : Prop :=
  ∀ id object, after.object? id = some object →
    ∃ earlier, before.object? id = some earlier ∧ view object = view earlier

namespace Keeps

variable {α : Type} {view : MapObject → α}

theorem refl (world : World) : Keeps view world world :=
  fun _ object present => ⟨object, present, rfl⟩

theorem trans {first second third : World} (one : Keeps view first second)
    (two : Keeps view second third) : Keeps view first third := by
  intro id object present
  obtain ⟨middle, known, same⟩ := two id object present
  obtain ⟨earlier, found, before⟩ := one id middle known
  exact ⟨earlier, found, same.trans before⟩

theorem map {β : Type} {before after : World} (keeps : Keeps view before after) (part : α → β) :
    Keeps (part ∘ view) before after := by
  intro id object present
  obtain ⟨earlier, found, same⟩ := keeps id object present
  exact ⟨earlier, found, congrArg part same⟩

theorem modifyObject (world : World) (id : Nat) {change : MapObject → MapObject}
    (quiet : ∀ object, view (change object) = view object) :
    Keeps view world (world.modifyObject id change) := by
  intro key object present
  rw [object?_modifyObject] at present
  split at present
  · obtain ⟨earlier, found, rfl⟩ := Option.map_eq_some_iff.mp present
    exact ⟨earlier, found, quiet earlier⟩
  · exact ⟨object, present, rfl⟩

theorem removeObject (world : World) (id : Nat)
    (quiet : ∀ object, view { object with removed := true } = view object) :
    Keeps view world (world.removeObject id) := by
  intro key object present
  rw [object?_removeObject] at present
  split at present
  · obtain ⟨earlier, found, rfl⟩ := Option.map_eq_some_iff.mp present
    exact ⟨earlier, found, quiet earlier⟩
  · exact ⟨object, present, rfl⟩

theorem endFrame (world : World)
    (quiet : ∀ object, view { object with receivedEvent := false } = view object) :
    Keeps view world world.endFrame := by
  intro key object present
  obtain ⟨earlier, found, rfl⟩ := object?_endFrame present
  exact ⟨earlier, found, quiet earlier⟩

end Keeps

end World

end TileScript
