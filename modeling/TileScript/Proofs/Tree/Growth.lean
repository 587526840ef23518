import TileScript.Proofs.Tree.Jumps

namespace TileScript.Tree

variable {α : Type}

def single (item : α) : Tree α := empty.add 0 item (Nat.zero_le _)

def Extends (earlier later : Tree α) : Prop :=
  ∃ added, later.slots = earlier.slots ++ added

theorem Extends.refl (tree : Tree α) : Extends tree tree := ⟨#[], by simp⟩

theorem Extends.trans {first middle last : Tree α} (early : Extends first middle)
    (late : Extends middle last) : Extends first last := by
  obtain ⟨left, early⟩ := early
  obtain ⟨right, late⟩ := late
  exact ⟨left ++ right, by rw [late, early, Array.append_assoc]⟩

theorem extends_add (tree : Tree α) (parent : Nat) (item : α) (known : parent ≤ tree.size) :
    Extends tree (tree.add parent item known) :=
  ⟨#[⟨parent, item⟩], by simp [add]⟩

theorem Extends.size_le {earlier later : Tree α} (grown : Extends earlier later) :
    earlier.size ≤ later.size := by
  obtain ⟨added, grown⟩ := grown
  simp only [size, grown, Array.size_append]
  omega

theorem Extends.slot {earlier later : Tree α} (grown : Extends earlier later) {index : Nat}
    (inside : index < earlier.size) : later.slots[index]? = earlier.slots[index]? := by
  obtain ⟨added, grown⟩ := grown
  rw [grown, Array.getElem?_append_left inside]

theorem Extends.parent?_eq {earlier later : Tree α} (grown : Extends earlier later) {node : Nat}
    (known : node ≤ earlier.size) : later.parent? node = earlier.parent? node := by
  cases node with
  | zero => rfl
  | succ index => simp only [parent?, grown.slot known]

theorem Extends.item?_eq {earlier later : Tree α} (grown : Extends earlier later) {node : Nat}
    (known : node ≤ earlier.size) : later.item? node = earlier.item? node := by
  cases node with
  | zero => rfl
  | succ index => simp only [item?, grown.slot known]

theorem Extends.ancestors_eq {earlier later : Tree α} (grown : Extends earlier later) {node : Nat}
    (known : node ≤ earlier.size) : later.ancestors node = earlier.ancestors node := by
  induction node using Nat.strongRecOn with
  | ind node ih =>
    rw [Tree.ancestors_eq later, Tree.ancestors_eq earlier, grown.parent?_eq known]
    cases hangs : earlier.parent? node with
    | none => rfl
    | some parent =>
      have below := parent?_lt hangs
      simp only [ih parent below (by omega)]

theorem size_add (tree : Tree α) (parent : Nat) (item : α) (known : parent ≤ tree.size) :
    (tree.add parent item known).size = tree.size + 1 := by
  simp [add, size]

theorem parent?_add (tree : Tree α) (parent : Nat) (item : α) (known : parent ≤ tree.size) :
    (tree.add parent item known).parent? (tree.size + 1) = some parent := by
  simp [add, parent?, size]

theorem item?_add (tree : Tree α) (parent : Nat) (item : α) (known : parent ≤ tree.size) :
    (tree.add parent item known).item? (tree.size + 1) = some item := by
  simp [add, item?, size]

theorem le_size_of_item? {tree : Tree α} {node : Nat} {item : α}
    (carried : tree.item? node = some item) : 0 < node ∧ node ≤ tree.size := by
  cases node with
  | zero => simp [item?] at carried
  | succ index =>
    simp only [item?, Option.map_eq_some_iff] at carried
    obtain ⟨slot, found, rfl⟩ := carried
    exact ⟨Nat.succ_pos _, (Array.getElem?_eq_some_iff.mp found).1⟩

theorem parent?_isSome {tree : Tree α} {node : Nat} (below : 0 < node) (known : node ≤ tree.size) :
    ∃ parent, tree.parent? node = some parent := by
  obtain ⟨index, rfl⟩ : ∃ index, node = index + 1 := ⟨node - 1, by omega⟩
  have inside : index < tree.slots.size := known
  exact ⟨tree.slots[index].parent, by simp [parent?, inside]⟩

theorem ancestors_of_parent? {tree : Tree α} {node parent : Nat}
    (hangs : tree.parent? node = some parent) :
    tree.ancestors node = if parent = 0 then [] else parent :: tree.ancestors parent := by
  rw [ancestors_eq, hangs]

theorem ancestors_of_suffix {tree : Tree α} {node inner : Nat} {outer : List Nat}
    (above : inner :: outer <:+ node :: tree.ancestors node) : tree.ancestors inner = outer := by
  induction node using Nat.strongRecOn with
  | ind node ih =>
    rcases List.suffix_cons_iff.mp above with same | above
    · cases same
      rfl
    · rw [ancestors_eq] at above
      split at above
      · simp at above
      · rename_i parent hangs
        split at above
        · simp at above
        · exact ih parent (parent?_lt hangs) above

theorem lt_of_mem_ancestors {tree : Tree α} {node ancestor : Nat}
    (above : ancestor ∈ tree.ancestors node) : ancestor < node := by
  induction node using Nat.strongRecOn with
  | ind node ih =>
    obtain ⟨parent, hangs, _, rfl | above⟩ := mem_ancestors_iff.mp above
    · exact parent?_lt hangs
    · exact Nat.lt_trans (ih parent (parent?_lt hangs) above) (parent?_lt hangs)

theorem nextSibling?_eq_some_iff {tree : Tree α} {node sibling : Nat} :
    tree.nextSibling? node = some sibling ↔
      (node < sibling ∧ sibling ≤ tree.size) ∧ tree.parent? sibling = tree.parent? node ∧
        ∀ between, node < between → between < sibling →
          tree.parent? between ≠ tree.parent? node := by
  constructor
  · intro next
    refine ⟨⟨lt_nextSibling? next, nextSibling?_le_size next⟩, parent?_nextSibling? next, ?_⟩
    intro between after before
    rw [nextSibling?_eq_find?] at next
    have first := (List.find?_range'_eq_some.mp next).2.2 between after before
    simpa using first
  · rintro ⟨⟨later, known⟩, same, first⟩
    rw [nextSibling?_eq_find?]
    refine List.find?_range'_eq_some.mpr ⟨by simpa using same, ?_, ?_⟩
    · exact List.mem_range'_1.mpr ⟨later, by omega⟩
    · intro between after before
      simpa using first between after before

theorem nextSibling?_eq_none_iff {tree : Tree α} {node : Nat} :
    tree.nextSibling? node = none ↔
      ∀ later, node < later → later ≤ tree.size → tree.parent? later ≠ tree.parent? node := by
  simp only [nextSibling?_eq_find?, List.find?_eq_none, List.mem_range'_1, beq_iff_eq]
  constructor
  · intro none later after known
    exact none later ⟨after, by omega⟩
  · rintro none later ⟨after, known⟩
    exact none later after (by omega)

theorem inside_of_leave? {tree : Tree α} {node : Nat} {next : Cursor}
    (left : tree.leave? node = some next) : 0 < next.node ∧ next.node ≤ tree.size := by
  cases after : tree.nextSibling? node with
  | some sibling =>
    cases (leave?_of_nextSibling? after).symm.trans left
    have later := lt_nextSibling? after
    exact ⟨Nat.zero_lt_of_lt later, nextSibling?_le_size after⟩
  | none =>
    rw [leave?_of_last after, rise?] at left
    split at left
    · cases left
    · rename_i parent hangs
      have below := parent?_lt hangs
      have known := le_size_of_parent? hangs
      split at left
      · cases left
      · rename_i inner
        cases left
        exact ⟨Nat.pos_of_ne_zero inner, Nat.le_trans (Nat.le_of_lt below) known⟩

theorem inside_of_step? {tree : Tree α} {cursor next : Cursor}
    (stepped : tree.step? cursor = some next) : 0 < next.node ∧ next.node ≤ tree.size := by
  unfold step? at stepped
  split at stepped
  · rename_i child _ first
    cases stepped
    have hangs := parent?_firstChild? first
    exact ⟨Nat.zero_lt_of_lt (parent?_lt hangs), le_size_of_parent? hangs⟩
  · exact inside_of_leave? stepped

theorem inside_of_advance? {tree : Tree α} {cursor next : Cursor} {count : Nat}
    (jump : tree.advance? cursor (count + 1) = some next) :
    0 < next.node ∧ next.node ≤ tree.size := by
  rw [advance?_add] at jump
  obtain ⟨last, _, jump⟩ := Option.bind_eq_some_iff.mp jump
  rw [advance?_one] at jump
  exact inside_of_step? jump

theorem item?_of_inside {tree : Tree α} {node : Nat} (inside : 0 < node ∧ node ≤ tree.size) :
    ∃ item, tree.item? node = some item := by
  obtain ⟨index, rfl⟩ : ∃ index, node = index + 1 := ⟨node - 1, by omega⟩
  have within : index < tree.slots.size := inside.2
  exact ⟨tree.slots[index].item, by simp [item?, within]⟩

end TileScript.Tree
