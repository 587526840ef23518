namespace TileScript

structure Slot (α : Type) where
  parent : Nat
  item : α

structure Links where
  next : Option Nat := none
  first : Option Nat := none
  last : Option Nat := none

namespace Links

def hang (links : Array Links) (parent : Nat) : Array Links :=
  let node := links.size
  let grown := links.push {}
  let linked :=
    match grown[parent]?.bind (·.last) with
    | some previous => grown.modify previous ({ · with next := some node })
    | none => grown.modify parent ({ · with first := some node })
  linked.modify parent ({ · with last := some node })

variable {α : Type}

def parentAt (slots : Array (Slot α)) : Nat → Option Nat
  | 0 => none
  | index + 1 => slots[index]?.map (·.parent)

def hanging (slots : Array (Slot α)) (parent : Nat) : List Nat :=
  (List.range' 1 slots.size).filter (fun child => parentAt slots child == some parent)

def hangingAfter (slots : Array (Slot α)) (node : Nat) : List Nat :=
  (List.range' (node + 1) (slots.size - node)).filter
    (fun other => parentAt slots other == parentAt slots node)

def linksAt (slots : Array (Slot α)) (node : Nat) : Links where
  next := (hangingAfter slots node).head?
  first := (hanging slots node).head?
  last := (hanging slots node).getLast?

variable {slots : Array (Slot α)} {parent node : Nat} {item : α}

theorem parentAt_push (below : node ≤ slots.size) :
    parentAt (slots.push ⟨parent, item⟩) node = parentAt slots node := by
  cases node with
  | zero => rfl
  | succ index =>
    have other : index ≠ slots.size := by omega
    simp only [parentAt, Array.getElem?_push, other, ↓reduceIte]

theorem parentAt_push_size :
    parentAt (slots.push ⟨parent, item⟩) (slots.size + 1) = some parent := by
  simp [parentAt]

theorem filter_push {start count : Nat} (ends : start + count = slots.size + 1)
    (under : Option Nat) :
    (List.range' start (count + 1)).filter
        (fun other => parentAt (slots.push ⟨parent, item⟩) other == under) =
      (List.range' start count).filter (fun other => parentAt slots other == under) ++
        if some parent = under then [slots.size + 1] else [] := by
  have same : ∀ other ∈ List.range' start count,
      (parentAt (slots.push ⟨parent, item⟩) other == under) = (parentAt slots other == under) := by
    intro other member
    have below := List.mem_range'_1.mp member
    rw [parentAt_push (by omega)]
  rw [List.range'_1_concat, List.filter_append, List.filter_congr same, ends]
  congr 1
  have last : (parentAt (slots.push ⟨parent, item⟩) (slots.size + 1) == under) =
      decide (some parent = under) := by
    rw [parentAt_push_size, Bool.beq_eq_decide_eq]
  by_cases here : some parent = under
  · rw [List.filter_cons_of_pos (by rw [last, decide_eq_true here]), if_pos here, List.filter_nil]
  · rw [List.filter_cons_of_neg (by simp [last, here]), if_neg here, List.filter_nil]

theorem hanging_push (node : Nat) :
    hanging (slots.push ⟨parent, item⟩) node =
      hanging slots node ++ if parent = node then [slots.size + 1] else [] := by
  rw [hanging, Array.size_push, filter_push (Nat.add_comm 1 slots.size)]
  simp only [hanging, Option.some.injEq]

theorem hangingAfter_push (below : node ≤ slots.size) :
    hangingAfter (slots.push ⟨parent, item⟩) node =
      hangingAfter slots node ++
        if some parent = parentAt slots node then [slots.size + 1] else [] := by
  have width : slots.size + 1 - node = slots.size - node + 1 := by omega
  rw [hangingAfter, Array.size_push, width, parentAt_push below, filter_push (by omega)]
  rfl

theorem hangingAfter_push_size :
    hangingAfter (slots.push ⟨parent, item⟩) (slots.size + 1) = [] := by
  simp [hangingAfter]

theorem parentAt_lt (ordered : ∀ (i : Nat) (h : i < slots.size), slots[i].parent ≤ i)
    (hangs : parentAt slots node = some parent) : parent < node := by
  cases node with
  | zero => simp [parentAt] at hangs
  | succ index =>
    simp only [parentAt, Option.map_eq_some_iff] at hangs
    obtain ⟨slot, found, rfl⟩ := hangs
    obtain ⟨inside, rfl⟩ := Array.getElem?_eq_some_iff.mp found
    exact Nat.lt_succ_of_le (ordered index inside)

theorem le_size_of_parentAt (hangs : parentAt slots node = some parent) : node ≤ slots.size := by
  cases node with
  | zero => exact Nat.zero_le _
  | succ index =>
    simp only [parentAt, Option.map_eq_some_iff] at hangs
    obtain ⟨slot, found, rfl⟩ := hangs
    exact (Array.getElem?_eq_some_iff.mp found).1

theorem pos_of_parentAt (hangs : parentAt slots node = some parent) : 0 < node := by
  cases node with
  | zero => simp [parentAt] at hangs
  | succ index => exact Nat.succ_pos index

theorem mem_hanging : node ∈ hanging slots parent ↔ parentAt slots node = some parent := by
  simp only [hanging, List.mem_filter, List.mem_range'_1, beq_iff_eq, and_iff_right_iff_imp]
  intro hangs
  have below := pos_of_parentAt hangs
  have known := le_size_of_parentAt hangs
  omega

theorem mem_hangingAfter {other : Nat} :
    other ∈ hangingAfter slots node ↔
      node < other ∧ other ≤ slots.size ∧ parentAt slots other = parentAt slots node := by
  simp only [hangingAfter, List.mem_filter, List.mem_range'_1, beq_iff_eq]
  constructor
  · rintro ⟨⟨later, known⟩, same⟩
    exact ⟨later, by omega, same⟩
  · rintro ⟨later, known, same⟩
    exact ⟨⟨later, by omega⟩, same⟩

/-- In an ascending run of numbers the first hit splits off the list of all hits. -/
theorem filter_range'_of_find? {test : Nat → Bool} {start count hit : Nat}
    (found : (List.range' start count).find? test = some hit) :
    (List.range' start count).filter test =
      hit :: (List.range' (hit + 1) (start + count - (hit + 1))).filter test := by
  induction count generalizing start with
  | zero => simp at found
  | succ count ih =>
    rw [List.range'_succ] at found ⊢
    cases head : test start with
    | true =>
      simp only [List.find?_cons, head, Option.some.injEq] at found
      subst found
      have width : start + (count + 1) - (start + 1) = count := by omega
      rw [width, List.filter_cons_of_pos head]
    | false =>
      simp only [List.find?_cons, head] at found
      have miss : ¬ test start = true := by simp [head]
      rw [List.filter_cons_of_neg miss, ih found]
      have width : start + 1 + count - (hit + 1) = start + (count + 1) - (hit + 1) := by omega
      rw [width]

theorem hanging_of_head? (first : (hanging slots parent).head? = some node) :
    hanging slots parent = node :: hangingAfter slots node := by
  have hangs := mem_hanging.mp (List.mem_of_head? first)
  have known := le_size_of_parentAt hangs
  have width : 1 + slots.size - (node + 1) = slots.size - node := by omega
  rw [hanging, List.head?_filter] at first
  rw [hanging, filter_range'_of_find? first, hangingAfter, hangs, width]

theorem hangingAfter_of_head? {sibling : Nat}
    (next : (hangingAfter slots node).head? = some sibling) :
    hangingAfter slots node = sibling :: hangingAfter slots sibling := by
  obtain ⟨later, known, same⟩ := mem_hangingAfter.mp (List.mem_of_head? next)
  have width : node + 1 + (slots.size - node) - (sibling + 1) = slots.size - sibling := by omega
  rw [hangingAfter, List.head?_filter] at next
  rw [hangingAfter, filter_range'_of_find? next, hangingAfter, same, width]

theorem hanging_split (hangs : parentAt slots node = some parent) :
    ∃ before, hanging slots parent = before ++ node :: hangingAfter slots node := by
  have positive := pos_of_parentAt hangs
  have known := le_size_of_parentAt hangs
  have split : List.range' 1 slots.size =
      List.range' 1 (node - 1) ++ node :: List.range' (node + 1) (slots.size - node) := by
    have width : slots.size = (node - 1) + (slots.size - node + 1) := by omega
    have start : 1 + (node - 1) = node := by omega
    calc List.range' 1 slots.size
        = List.range' 1 ((node - 1) + (slots.size - node + 1)) := by rw [← width]
      _ = List.range' 1 (node - 1) ++ List.range' node (slots.size - node + 1) := by
        rw [← List.range'_append_1, start]
      _ = _ := by rw [List.range'_succ]
  refine ⟨(List.range' 1 (node - 1)).filter (fun child => parentAt slots child == some parent), ?_⟩
  rw [hanging, split, List.filter_append, List.filter_cons_of_pos (by simp [hangs]), hangingAfter,
    hangs]

/-- The last child of a parent is the one without a later sibling. -/
theorem getLast?_hanging_iff (hangs : parentAt slots node = some parent) :
    (hanging slots parent).getLast? = some node ↔ hangingAfter slots node = [] := by
  obtain ⟨before, split⟩ := hanging_split hangs
  rw [split, List.getLast?_append, List.getLast?_cons]
  constructor
  · intro last
    cases later : (hangingAfter slots node).getLast? with
    | none => exact List.getLast?_eq_none_iff.mp later
    | some other =>
      simp only [later, Option.getD_some, Option.some_or, Option.some.injEq] at last
      have after := (mem_hangingAfter.mp (List.mem_of_getLast? later)).1
      omega
  · intro done
    simp [done]

theorem linksAt_push (below : node ≤ slots.size) :
    linksAt (slots.push ⟨parent, item⟩) node =
      { next := (linksAt slots node).next.or
          (if some parent = parentAt slots node then some (slots.size + 1) else none)
        first := (linksAt slots node).first.or
          (if parent = node then some (slots.size + 1) else none)
        last := if parent = node then some (slots.size + 1) else (linksAt slots node).last } := by
  simp only [linksAt, hangingAfter_push below, hanging_push, List.head?_append,
    List.getLast?_append]
  congr 1
  · split <;> rfl
  · split <;> rfl
  · split <;> simp

theorem hanging_of_unknown (ordered : ∀ (i : Nat) (h : i < slots.size), slots[i].parent ≤ i)
    (unknown : slots.size < node) : hanging slots node = [] := by
  refine List.eq_nil_iff_forall_not_mem.mpr fun child member => ?_
  have hangs := mem_hanging.mp member
  have below := parentAt_lt ordered hangs
  have inside := le_size_of_parentAt hangs
  omega

theorem linksAt_of_unknown (ordered : ∀ (i : Nat) (h : i < slots.size), slots[i].parent ≤ i)
    (unknown : slots.size < node) : linksAt slots node = {} := by
  have after : hangingAfter slots node = [] := by
    refine List.eq_nil_iff_forall_not_mem.mpr fun other member => ?_
    have later := mem_hangingAfter.mp member
    omega
  simp [linksAt, after, hanging_of_unknown ordered unknown]

theorem linksAt_push_size (ordered : ∀ (i : Nat) (h : i < slots.size), slots[i].parent ≤ i)
    (known : parent ≤ slots.size) :
    linksAt (slots.push ⟨parent, item⟩) (slots.size + 1) = {} := by
  have other : parent ≠ slots.size + 1 := by omega
  simp [linksAt, hangingAfter_push_size, hanging_push, other, hanging_of_unknown ordered]

/-- What hanging a node under a parent changes: the way on from the last child the parent had, and
the parent's ways down. -/
theorem getElem?_hang (links : Array Links) (parent node : Nat) :
    (hang links parent)[node]? = (links.push {})[node]?.map (fun link =>
      { next := if (links.push {})[parent]?.bind (·.last) = some node then some links.size
          else link.next
        first := if (links.push {})[parent]?.bind (·.last) = none ∧ parent = node
          then some links.size else link.first
        last := if parent = node then some links.size else link.last }) := by
  cases last : (links.push {})[parent]?.bind (·.last) with
  | none =>
    simp only [hang, last, Array.getElem?_modify]
    by_cases here : parent = node <;> simp [here, Function.comp_def]
  | some previous =>
    simp only [hang, last, Array.getElem?_modify]
    by_cases here : parent = node <;> by_cases before : previous = node <;>
      simp [here, before, Function.comp_def]

end Links

/-- Every node hangs under an earlier one, and its links agree with that. -/
structure Linked (slots : Array (Slot α)) (links : Array Links) : Prop where
  parent_le : ∀ (i : Nat) (h : i < slots.size), slots[i].parent ≤ i
  size_eq : links.size = slots.size + 1
  links_eq : ∀ node, node ≤ slots.size → links[node]? = some (Links.linksAt slots node)

namespace Linked

open Links

variable {slots : Array (Slot α)} {links : Array Links} {parent : Nat} {item : α}

theorem empty : Linked (#[] : Array (Slot α)) #[{}] where
  parent_le := fun i h => absurd h (Nat.not_lt_zero i)
  size_eq := rfl
  links_eq := fun node known => by
    rw [Nat.le_zero.mp known]
    rfl

/-- The links stay right when a node is added. -/
theorem hang (linked : Linked slots links) (known : parent ≤ slots.size) :
    Linked (slots.push ⟨parent, item⟩) (Links.hang links parent) where
  parent_le := by
    intro i h
    rw [Array.getElem_push]
    split
    · rename_i inside
      exact linked.parent_le i inside
    · rename_i outside
      simp only [Array.size_push] at h
      exact Nat.le_trans known (Nat.le_of_not_lt outside)
  size_eq := by
    simp only [Links.hang]
    split <;> simp [linked.size_eq]
  links_eq := by
    intro node below
    have grown : ∀ other, other ≤ slots.size →
        (links.push {})[other]? = some (linksAt slots other) := by
      intro other inside
      rw [Array.getElem?_push, if_neg (by rw [linked.size_eq]; omega), linked.links_eq other inside]
    rw [getElem?_hang, grown parent known, linked.size_eq, Option.bind_some]
    have under : ∀ child, (linksAt slots parent).last = some child →
        parentAt slots child = some parent :=
      fun child last => mem_hanging.mp (List.mem_of_getLast? last)
    rcases Nat.eq_or_lt_of_le below with new | old
    · rw [Array.size_push] at new
      have fresh : (links.push {})[node]? = some {} := by simp [new, ← linked.size_eq]
      have noChild : (linksAt slots parent).last ≠ some node := fun last => by
        have inside := le_size_of_parentAt (under node last)
        omega
      have other : parent ≠ node := by omega
      rw [fresh, new, linksAt_push_size linked.parent_le known, ← new]
      simp [noChild, other]
    · have inside : node ≤ slots.size := by
        rw [Array.size_push] at old
        omega
      rw [grown node inside, linksAt_push inside, Option.map_some]
      congr 2
      · -- The way on from the last child leads to the new node, from any other where it led.
        by_cases hangs : parentAt slots node = some parent
        · rw [if_pos hangs.symm]
          by_cases last : (linksAt slots parent).last = some node
          · have done := (getLast?_hanging_iff hangs).mp last
            rw [if_pos last]
            simp [linksAt, done]
          · have more : hangingAfter slots node ≠ [] :=
              fun done => last ((getLast?_hanging_iff hangs).mpr done)
            rw [if_neg last]
            simp [linksAt, List.head?_eq_some_head more]
        · rw [if_neg (Ne.symm hangs), if_neg (fun last => hangs (under node last)), Option.or_none]
      · by_cases here : parent = node
        · subst here
          cases children : hanging slots parent with
          | nil => simp [linksAt, children]
          | cons child rest => simp [linksAt, children]
        · simp [here]

theorem bind_links (linked : Linked slots links) {way : Links → Option Nat}
    (ends : way {} = none) (node : Nat) :
    links[node]?.bind way = way (linksAt slots node) := by
  by_cases known : node ≤ slots.size
  · rw [linked.links_eq node known, Option.bind_some]
  · have beyond : links[node]? = none := by
      rw [Array.getElem?_eq_none_iff, linked.size_eq]
      omega
    rw [beyond, linksAt_of_unknown linked.parent_le (by omega), ends, Option.bind_none]

end Linked

end TileScript
