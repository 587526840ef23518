import Mathlib.Logic.Relation
import TileScript.Proofs.Tree.Subtrees

namespace TileScript.Tree

variable {α : Type} {tree : Tree α} {node ancestor : Nat}

/-- One node hangs under another, directly or with nodes in between; the root counts. -/
def HangsBelow (tree : Tree α) : Nat → Nat → Prop :=
  Relation.TransGen (fun child parent => tree.parent? child = some parent)

theorem step?_back_eq {parent : Nat} (hangs : tree.parent? node = some parent) :
    tree.step? (.back node) =
      ((tree.nextSibling? node).map Cursor.enter).or
        (if parent = 0 then none else some (.back parent)) := by
  rw [step?_back]
  cases next : tree.nextSibling? node with
  | some sibling => exact leave?_of_nextSibling? next
  | none => simp [leave?_of_last next, rise?, hangs]

/-- The skip distance of a node leads past its subtree, and every distance up to it into the
subtree. -/
theorem skipOffset_ends_subtree (inside : 0 < node ∧ node ≤ tree.size) :
    (∃ parent, tree.parent? node = some parent ∧
      tree.advance? (.enter node) (tree.skipOffset node) = tree.step? (.back node) ∧
      tree.step? (.back node) =
        ((tree.nextSibling? node).map Cursor.enter).or
          (if parent = 0 then none else some (.back parent))) ∧
    ∀ count, 0 < count → count < tree.skipOffset node →
      ∃ cursor, tree.advance? (.enter node) count = some cursor ∧
        tree.Holds node cursor.node := by
  obtain ⟨parent, hangs⟩ := parent?_isSome inside.1 inside.2
  have lands : tree.advance? (.enter node) (tree.skipOffset node) = tree.step? (.back node) := by
    rw [advance?_skipOffset, step?_back]
  refine ⟨⟨parent, hangs, lands, step?_back_eq hangs⟩, ?_⟩
  intro count _ within
  obtain ⟨cursor, reached, holds, _⟩ := advance?_inside (Nat.ne_of_gt inside.1) within
  exact ⟨cursor, reached, holds⟩

def bush : Tree Unit :=
  (((((empty.add 0 () (by decide)).add 0 () (by decide)).add 1 () (by decide)).add 2 ()
    (by decide)).add 1 () (by decide)).add 3 () (by decide)

theorem bush_branch_skipped :
    (0 < 1 ∧ 1 ≤ bush.size) ∧ bush.skipOffset 1 = 6 ∧
      bush.advance? (.enter 1) 6 = some (.enter 2) ∧
      ∃ cursor, bush.advance? (.enter 1) 5 = some cursor ∧ bush.Holds 1 cursor.node := by
  have inside : 0 < 1 ∧ 1 ≤ bush.size := by decide
  have width : bush.skipOffset 1 = 6 := by decide +kernel
  have next : bush.nextSibling? 1 = some 2 := rfl
  obtain ⟨⟨parent, hangs, lands, onward⟩, stays⟩ := skipOffset_ends_subtree inside
  rw [width, onward, next] at lands
  exact ⟨inside, width, lands, stays 5 (by decide) (by rw [width]; decide)⟩

theorem not_hangsBelow (orphan : tree.parent? node = none) : ¬ tree.HangsBelow node ancestor := by
  intro below
  obtain ⟨parent, direct, _⟩ := Relation.TransGen.head'_iff.mp below
  cases orphan.symm.trans direct

theorem hangsBelow_iff {parent : Nat} (hangs : tree.parent? node = some parent) :
    tree.HangsBelow node ancestor ↔ parent = ancestor ∨ tree.HangsBelow parent ancestor := by
  constructor
  · intro below
    obtain ⟨other, direct, above⟩ := Relation.TransGen.head'_iff.mp below
    cases hangs.symm.trans direct
    exact (Relation.reflTransGen_iff_eq_or_transGen.mp above).imp Eq.symm id
  · rintro (rfl | above)
    · exact .single hangs
    · exact .head hangs above

theorem climbTo?_isSome_iff :
    (tree.climbTo? node ancestor).isSome ↔ node = ancestor ∨ tree.HangsBelow node ancestor := by
  induction node using Nat.strongRecOn with
  | ind node ih =>
    rw [climbTo?_eq]
    by_cases here : node = ancestor
    · simp [here]
    · cases hangs : tree.parent? node with
      | none => simp [here, not_hangsBelow hangs]
      | some parent =>
        have above := ih parent (parent?_lt hangs)
        simp [here, hangsBelow_iff hangs, above]

theorem offsetToExit?_isSome_iff :
    (tree.offsetToExit? node ancestor).isSome ↔ tree.HangsBelow node ancestor := by
  cases hangs : tree.parent? node with
  | none => simp [offsetToExit?, hangs, not_hangsBelow hangs]
  | some parent => simp [offsetToExit?, hangs, climbTo?_isSome_iff, hangsBelow_iff hangs]

theorem advance?_toParent {parent : Nat} {cursor : Cursor} (hangs : tree.parent? node = some parent)
    (done : cursor = .back node ∨ cursor = .enter node ∧ tree.children node = []) :
    tree.advance? cursor (tree.offsetToParentReturn node) =
      if parent = 0 then none else some (.back parent) := by
  have leaves : tree.step? cursor = tree.leave? node := by
    rcases done with rfl | ⟨rfl, leaf⟩
    · exact tree.step?_back node
    · refine step?_leaf ?_
      rw [firstChild?_eq_head?, leaf]
      rfl
  rw [advance?_offsetToParentReturn leaves, rise?, hangs]

/-- Every distance that is asked for exists exactly when there is such a place, and leads there. -/
theorem offsets_lead_where_named (tree : Tree α) :
    (∀ node index, (tree.offsetToChild? node index).isSome ↔
      index < (tree.children node).length) ∧
    (∀ node index steps, tree.offsetToChild? node index = some steps →
      ∃ child, (tree.children node)[index]? = some child ∧
        tree.advance? (.enter node) steps = some (.enter child)) ∧
    (∀ node parent, tree.parent? node = some parent →
      ∀ cursor, cursor = .back node ∨ cursor = .enter node ∧ tree.children node = [] →
        tree.advance? cursor (tree.offsetToParentReturn node) =
          if parent = 0 then none else some (.back parent)) ∧
    (∀ node ancestor, (tree.offsetToExit? node ancestor).isSome ↔ tree.HangsBelow node ancestor) ∧
    ∀ node ancestor steps, tree.offsetToExit? node ancestor = some steps →
      tree.advance? (.enter node) steps = tree.step? (.back ancestor) := by
  refine ⟨?_, ?_, ?_, ?_, ?_⟩
  · intro node index
    unfold offsetToChild?
    split <;> simp [*]
  · intro node index steps offset
    exact advance?_offsetToChild? offset
  · intro node parent hangs cursor done
    exact advance?_toParent hangs done
  · intro node ancestor
    exact offsetToExit?_isSome_iff
  · intro node ancestor steps exit
    rw [advance?_offsetToExit? exit, step?_back]

theorem bush_jumps_land :
    bush.advance? (.enter 1) 4 = some (.enter 5) ∧ bush.advance? (.enter 6) 1 = some (.back 3) ∧
      bush.advance? (.enter 6) 4 = bush.step? (.back 1) ∧
      bush.advance? (.enter 6) 8 = bush.step? (.back 0) := by
  obtain ⟨_, toChild, toParent, _, toExit⟩ := bush.offsets_lead_where_named
  refine ⟨?_, ?_, toExit 6 1 4 (by decide +kernel), toExit 6 0 8 (by decide +kernel)⟩
  · have second : bush.offsetToChild? 1 1 = some 4 := by decide +kernel
    obtain ⟨child, listed, lands⟩ := toChild 1 1 4 second
    cases (show (bush.children 1)[1]? = some 5 from rfl).symm.trans listed
    exact lands
  · have one : bush.offsetToParentReturn 6 = 1 := by decide +kernel
    have lands := toParent 6 3 rfl (.enter 6) (.inr ⟨rfl, rfl⟩)
    rwa [one] at lands

end TileScript.Tree
