import TileScript.Proofs.Script.Nesting

namespace TileScript

structure Welcome (scope : Scope) (inMenu inLoop afterIf : Bool) (command : Command) : Prop where
  elseAfterIf : command = .elseBranch → afterIf = true
  choiceInMenu : command = .choice ↔ inMenu = true
  breakInLoop : command = .breakLoop → inLoop = true
  commonKnown : ∀ id parameters, command = .callCommon id parameters → id ∈ scope.commons
  mapKnown : ∀ map target orientation, command = .teleport map target orientation →
    map ∈ scope.maps
  cancelInRange : ∀ choices cancel, command = .displayChoice choices (some cancel) →
    cancel < choices.length

namespace Lines

structure Fits (scope : Scope) (entries : List ScriptEntry) (index : Nat) (entry : ScriptEntry) :
    Prop where
  first : index = 0 → entry.indent = 0
  deeper : ∀ before previous, before + 1 = index → entries[before]? = some previous →
    entry.indent ≤ previous.indent + 1
  welcome : Welcome scope ((parent? entries index).any (carries entries Command.isMenu))
    ((ancestors entries index).any (carries entries Command.isLoop))
    ((sibling? entries index).any (carries entries Command.isIf)) entry.command

def FullMenu (entries : List ScriptEntry) (index : Nat) (entry : ScriptEntry) : Prop :=
  ∀ choices cancel, entry.command = .displayChoice choices cancel →
    (children entries index).length = choices.length

theorem lt_of_mem_ancestors {entries : List ScriptEntry} {index line : Nat}
    (above : line ∈ ancestors entries index) : line < index := by
  induction index using Nat.strongRecOn with
  | ind index ih =>
    rw [ancestors_eq] at above
    cases hangs : parent? entries index with
    | none => simp [hangs] at above
    | some parent =>
      have below := parent?_lt hangs
      rw [hangs, Option.elim_some] at above
      rcases List.mem_cons.mp above with rfl | higher
      · exact below
      · exact Nat.lt_trans (ih parent below higher) below

end Lines

open Lines (Fits FullMenu)

namespace Draft

theorem misplaced?_eq_none_iff (scope : Scope) (tree : Tree Command) (chain : List Nat)
    (command : Command) :
    misplaced? scope tree chain command = none ↔
      Welcome scope (carries tree Command.isMenu (parentOf chain))
        (chain.any (carries tree Command.isLoop))
        (((tree.lastChild? (parentOf chain)).map (carries tree Command.isIf)).getD false)
        command := by
  unfold misplaced?
  dsimp only
  generalize carries tree Command.isMenu (parentOf chain) = inMenu
  generalize chain.any (carries tree Command.isLoop) = inLoop
  generalize ((tree.lastChild? (parentOf chain)).map (carries tree Command.isIf)).getD false =
    afterIf
  rw [Option.or_eq_none_iff]
  constructor
  · rintro ⟨placement, branch⟩
    constructor
    · rintro rfl
      simpa using placement
    · constructor
      · rintro rfl
        simpa using placement
      · intro under
        cases command <;> simp_all [Command.isChoice]
    · rintro rfl
      simpa using placement
    · rintro id parameters rfl
      simpa using placement
    · rintro map target orientation rfl
      simpa using placement
    · rintro choices cancel rfl
      simpa using placement
  · intro welcome
    have branch : inMenu = true → command.isChoice = true := by
      intro under
      rw [welcome.choiceInMenu.mpr under]
      rfl
    refine ⟨?_, ?_⟩
    · cases command with
      | elseBranch => simp [welcome.elseAfterIf rfl]
      | choice => simp [welcome.choiceInMenu.mp rfl]
      | breakLoop => simp [welcome.breakInLoop rfl]
      | callCommon id parameters => simp [welcome.commonKnown id parameters rfl]
      | teleport map target orientation => simp [welcome.mapKnown map target orientation rfl]
      | displayChoice choices cancel =>
        cases cancel with
        | none => rfl
        | some cancel => simp [welcome.cancelInRange choices cancel rfl]
      | _ => rfl
    · cases inMenu with
      | false => rfl
      | true => simp [branch rfl]

theorem around_isOk {draft : Draft} {indent : Nat} :
    (∃ around, draft.around indent = .ok around) ↔
      indent ≤ draft.chain.length ∨ indent = draft.chain.length + 1 ∧ draft.tree.size ≠ 0 := by
  unfold around
  split
  · rename_i shallow
    exact iff_of_true ⟨_, rfl⟩ (.inl shallow)
  · rename_i deep
    split
    · rename_i next
      split
      · rename_i unbegun
        simp [unbegun, deep]
      · rename_i begun
        exact iff_of_true ⟨_, rfl⟩ (.inr ⟨next, begun⟩)
    · rename_i far
      simp [deep, far]

namespace Records

variable {scope : Scope} {entries : List ScriptEntry} {draft : Draft}
  (records : Records entries draft)

include records

theorem around_isOk_iff (entry : ScriptEntry) :
    (∃ around, draft.around entry.indent = .ok around) ↔
      (draft.tree.size = 0 → entry.indent = 0) ∧
        ∀ before previous, before + 1 = draft.tree.size → entries[before]? = some previous →
          entry.indent ≤ previous.indent + 1 := by
  have level : draft.chain.length = draft.tree.depth draft.tree.size :=
    congrArg List.length records.settled
  rw [around_isOk, level]
  cases size : draft.tree.size with
  | zero =>
    have top : draft.tree.depth 0 = 0 := by simp [Tree.depth, Tree.ancestors_eq, Tree.parent?]
    simp [top]
  | succ last =>
    obtain ⟨previous, found, depth, _⟩ := records.line last (by omega)
    rw [depth]
    constructor
    · intro close
      refine ⟨fun none => absurd none (Nat.succ_ne_zero last), fun before other next here => ?_⟩
      obtain rfl : before = last := by omega
      cases found.symm.trans here
      omega
    · rintro ⟨_, close⟩
      have bound := close last previous rfl found
      omega

theorem place_isOk_iff (scope : Scope) {entry : ScriptEntry} (rest : List ScriptEntry)
    (here : entries[draft.tree.size]? = some entry) :
    (∃ next, draft.place scope entry rest = .ok next) ↔
      Fits scope entries draft.tree.size entry := by
  have indented := records.around_isOk_iff entry
  have welcomed : ∀ around, draft.around entry.indent = .ok around →
      (misplaced? scope draft.tree around.1 entry.command = none ↔
        Welcome scope
          ((Lines.parent? entries draft.tree.size).any (Lines.carries entries Command.isMenu))
          ((Lines.ancestors entries draft.tree.size).any (Lines.carries entries Command.isLoop))
          ((Lines.sibling? entries draft.tree.size).any (Lines.carries entries Command.isIf))
          entry.command) := by
    intro around fits
    obtain ⟨closes, level, _⟩ := around_ok fits
    obtain ⟨chain, hangs⟩ :=
      records.chain_eq here closes level (around_inside records.settled fits)
    have inMenu : carries draft.tree Command.isMenu
        (Lines.node (Lines.parent? entries draft.tree.size)) =
          (Lines.parent? entries draft.tree.size).any (Lines.carries entries Command.isMenu) :=
      records.carries_node (fun follows command => by cases command <;> rfl)
        (fun line found => Lines.parent?_lt found)
    have inLoop : around.1.any (carries draft.tree Command.isLoop) =
        (Lines.ancestors entries draft.tree.size).any (Lines.carries entries Command.isLoop) := by
      rw [chain, List.any_map, Bool.eq_iff_iff, List.any_eq_true, List.any_eq_true]
      refine exists_congr fun line => and_congr_right fun member => ?_
      have within := Lines.lt_of_mem_ancestors member
      have same : carries draft.tree Command.isLoop (line + 1) =
          Lines.carries entries Command.isLoop line :=
        records.carries_eq (fun follows command => by cases command <;> rfl) within
      rw [Function.comp_apply, same]
    have afterIf : ((draft.tree.lastChild? (parentOf around.1)).map
          (carries draft.tree Command.isIf)).getD false =
        (Lines.sibling? entries draft.tree.size).any (Lines.carries entries Command.isIf) := by
      rw [hangs, records.lastChild?_eq]
      cases before : Lines.sibling? entries draft.tree.size with
      | none => rfl
      | some line =>
        exact records.carries_eq (fun follows command => by cases command <;> rfl)
          (closest?_lt before)
    rw [misplaced?_eq_none_iff, hangs, inMenu, inLoop, ← hangs, afterIf]
  constructor
  · rintro ⟨next, placed⟩
    unfold place at placed
    split at placed
    · cases placed
    · rename_i chain known fits
      split at placed
      · cases placed
      · rename_i fine
        obtain ⟨first, deeper⟩ := indented.mp ⟨_, fits⟩
        exact ⟨first, deeper, (welcomed _ fits).mp fine⟩
  · intro fitting
    obtain ⟨around, fits⟩ := indented.mpr ⟨fitting.first, fitting.deeper⟩
    have fine := (welcomed around fits).mpr fitting.welcome
    simp [place, fits, fine]

theorem size_le : draft.tree.size ≤ entries.length := by
  refine Nat.le_of_not_lt fun beyond => ?_
  obtain ⟨entry, found, _⟩ := records.line entries.length beyond
  simp at found

end Records

theorem place_error {scope : Scope} {draft : Draft} {entry : ScriptEntry} {rest : List ScriptEntry}
    {problem : Problem} (refused : draft.place scope entry rest = .error problem)
    (listed found : Nat) : problem ≠ .branchCount listed found := by
  rintro rfl
  unfold place at refused
  split at refused
  · rename_i fits
    cases refused
    unfold around at fits
    split at fits
    · cases fits
    · split at fits
      · split at fits <;> cases fits
      · cases fits
  · split at refused
    · rename_i problem misplaced
      cases refused
      unfold misplaced? at misplaced
      dsimp only at misplaced
      rcases Option.or_eq_some_iff.mp misplaced with placement | ⟨_, branch⟩
      · split at placement
        case h_7 => cases placement
        all_goals split at placement <;> cases placement
      · split at branch <;> cases branch
    · cases refused

/-- The lines that are left all fit, or the first that does not is reported. -/
theorem placeAll_verdict (scope : Scope) {entries remaining : List ScriptEntry} {draft : Draft}
    (records : Records entries draft) (left : entries.drop draft.tree.size = remaining) :
    (∃ final, placeAll scope draft draft.tree.size remaining = .ok final ∧
      Records entries final ∧ final.tree.size = entries.length ∧
      ∀ index entry, draft.tree.size ≤ index → entries[index]? = some entry →
        Fits scope entries index entry) ∨
    ∃ problem index entry,
      placeAll scope draft draft.tree.size remaining = .error (problem, index) ∧
      (∀ listed found, problem ≠ .branchCount listed found) ∧ entries[index]? = some entry ∧
      ¬ Fits scope entries index entry ∧
      ∀ earlier other, draft.tree.size ≤ earlier → earlier < index →
        entries[earlier]? = some other → Fits scope entries earlier other := by
  have bound := records.size_le
  induction remaining generalizing draft with
  | nil =>
    have whole : draft.tree.size = entries.length := by
      have none := List.drop_eq_nil_iff.mp left
      omega
    refine .inl ⟨draft, rfl, records, whole, fun index entry beyond here => ?_⟩
    obtain ⟨within, _⟩ := List.getElem?_eq_some_iff.mp here
    omega
  | cons entry rest ih =>
    have here : entries[draft.tree.size]? = some entry := by
      rw [← List.head?_drop, left]
      rfl
    have fitting := records.place_isOk_iff scope rest here
    rw [placeAll]
    cases placed : draft.place scope entry rest with
    | error problem =>
      refine .inr ⟨problem, draft.tree.size, entry, rfl, place_error placed, here, ?_, ?_⟩
      · intro fits
        obtain ⟨next, same⟩ := fitting.mpr fits
        rw [placed] at same
        cases same
      · intro earlier other beyond before
        omega
    | ok next =>
      have fits := fitting.mp ⟨next, placed⟩
      have step := place_ok records.settled placed
      have grown := step.size
      have kept := step.records records left
      have later : entries.drop next.tree.size = rest := by
        rw [grown, ← List.tail_drop, left]
        rfl
      -- The line just read is known to fit, so what is said of the later ones is said of all.
      have widen : ∀ index other, draft.tree.size ≤ index → entries[index]? = some other →
          (next.tree.size ≤ index → Fits scope entries index other) →
          Fits scope entries index other := by
        intro index other beyond found onward
        by_cases now : index = draft.tree.size
        · subst now
          cases here.symm.trans found
          exact fits
        · exact onward (by omega)
      dsimp only
      rw [← grown]
      rcases ih kept later kept.size_le with ⟨final, done, sound, whole, all⟩ |
        ⟨problem, index, line, stopped, direct, found, breaks, earlier⟩
      · exact .inl ⟨final, done, sound, whole, fun index other beyond found =>
          widen index other beyond found fun onward => all index other onward found⟩
      · exact .inr ⟨problem, index, line, stopped, direct, found, breaks,
          fun before other beyond within found =>
            widen before other beyond found fun onward => earlier before other onward within found⟩

end Draft

theorem branchMismatch?_eq_none_iff {tree : Tree Command} {entries : List ScriptEntry} :
    branchMismatch? tree entries = none ↔
      ∀ index entry, entries[index]? = some entry → ∀ choices cancel,
        entry.command = .displayChoice choices cancel →
          (tree.children (index + 1)).length = choices.length := by
  simp only [branchMismatch?, List.findSome?_eq_none_iff, Prod.forall,
    List.mem_zipIdx_iff_getElem?]
  constructor
  · intro none index entry here choices cancel menu
    have full := none entry index here
    rw [menu] at full
    by_contra differs
    simp [differs] at full
  · intro full entry index here
    split
    · rename_i choices cancel menu
      simp [full index entry here choices cancel menu]
    · rfl

theorem branchMismatch?_eq_some {tree : Tree Command} {entries : List ScriptEntry}
    {problem : Problem} {index : Nat}
    (mismatch : branchMismatch? tree entries = some (problem, index)) :
    ∃ entry choices cancel, entries[index]? = some entry ∧
      entry.command = .displayChoice choices cancel ∧
      problem = .branchCount choices.length (tree.children (index + 1)).length ∧
      (tree.children (index + 1)).length ≠ choices.length := by
  obtain ⟨⟨entry, position⟩, member, found⟩ := List.exists_of_findSome?_eq_some mismatch
  rw [List.mem_zipIdx_iff_getElem?] at member
  dsimp only at member found
  split at found
  · rename_i choices cancel menu
    split at found
    · cases found
    · rename_i differs
      cases found
      exact ⟨entry, choices, cancel, member, menu, rfl, differs⟩
  · cases found

/--
A script compiles exactly if all its lines fit and all its menus are full. If not, the first line
that does not fit is reported, and only if all of them fit, a menu that is not full.
-/
theorem compileScript_decides_grammar (scope : Scope) (entries : List ScriptEntry) :
    ((∃ tree, compileScript scope entries = .ok tree) ↔
      ∀ index entry, entries[index]? = some entry →
        Fits scope entries index entry ∧ FullMenu entries index entry) ∧
    ∀ problem index, compileScript scope entries = .error (problem, index) →
      (∃ entry, entries[index]? = some entry ∧ ¬ Fits scope entries index entry ∧
        (∀ earlier other, earlier < index → entries[earlier]? = some other →
          Fits scope entries earlier other) ∧
        ∀ listed found, problem ≠ .branchCount listed found) ∨
      ((∀ other line, entries[other]? = some line → Fits scope entries other line) ∧
        ∃ entry choices cancel, entries[index]? = some entry ∧
          entry.command = .displayChoice choices cancel ∧
          problem = .branchCount choices.length (Lines.children entries index).length ∧
          ¬ FullMenu entries index entry) := by
  have verdict := Draft.placeAll_verdict scope (Draft.records_empty entries) rfl
  rw [show Draft.empty.tree.size = 0 from rfl, List.drop_zero] at verdict
  rcases verdict with ⟨final, placed, records, whole, all⟩ |
    ⟨problem, index, entry, refused, direct, here, breaks, earlier⟩
  · have counted := records.length_children whole
    cases mismatch : branchMismatch? final.tree entries with
    | none =>
      have compiled : compileScript scope entries = .ok final.tree := by
        simp only [compileScript, placed, mismatch]
      rw [compiled]
      have full := branchMismatch?_eq_none_iff.mp mismatch
      refine ⟨iff_of_true ⟨_, rfl⟩ fun index entry here =>
          ⟨all index entry (Nat.zero_le _) here, ?_⟩,
        fun problem index failed => nomatch failed⟩
      intro choices cancel menu
      rw [← counted]
      exact full index entry here choices cancel menu
    | some located =>
      have failed : compileScript scope entries = .error located := by
        simp only [compileScript, placed, mismatch]
      rw [failed]
      obtain ⟨problem, index⟩ := located
      obtain ⟨entry, choices, cancel, here, menu, rfl, differs⟩ := branchMismatch?_eq_some mismatch
      rw [counted] at differs
      have short : ¬ FullMenu entries index entry := fun full => differs (full choices cancel menu)
      refine ⟨iff_of_false (fun ⟨_, ok⟩ => nomatch ok) fun grammar => ?_,
        fun problem other failed => ?_⟩
      · exact short (grammar index entry here).2
      · cases failed
        exact .inr ⟨fun other line found => all other line (Nat.zero_le _) found,
          entry, choices, cancel, here, menu, by rw [counted], short⟩
  · have failed : compileScript scope entries = .error (problem, index) := by
      simp only [compileScript, refused]
    rw [failed]
    refine ⟨iff_of_false (fun ⟨_, ok⟩ => nomatch ok) fun grammar => ?_, fun _ _ same => ?_⟩
    · exact breaks (grammar index entry here).1
    · cases same
      exact .inl ⟨entry, here, breaks, fun before other within found =>
        earlier before other (Nat.zero_le _) within found, direct⟩

end TileScript
