import Mathlib.Data.List.Perm.Subperm
import TileScript.Proofs.Run.Calls
import TileScript.Proofs.Tree.Growth

namespace TileScript

theorem Cursor.back_node {cursor : Cursor} (back : cursor.phase = .back) :
    Cursor.back cursor.node = cursor := by
  cases cursor
  cases back
  rfl

namespace Call

variable {σ : Type}

def returned? : Call σ → Option Nat
  | childrenDone node _ _ => some node
  | _ => none

def performed? : Call σ → Option Nat
  | perform node _ _ => some node
  | _ => none

end Call

namespace Run

variable {σ : Type} (language : Language σ) (run : Run σ)

def returned (calls : List (Call σ)) : List Nat := calls.filterMap Call.returned?

def performed (calls : List (Call σ)) : List Nat := calls.filterMap Call.performed?

structure Onwards (tree : Tree Command) (place : Nat) (nodes : List Nat) : Prop where
  carried : ∀ node ∈ nodes, (tree.item? node).isSome = true
  below : ∀ node ∈ nodes, tree.remaining (.back node) < place
  falling : nodes.Pairwise (fun earlier later =>
    tree.remaining (.back later) < tree.remaining (.back earlier))

theorem Onwards.nil (tree : Tree Command) (place : Nat) : Onwards tree place [] :=
  ⟨nofun, nofun, .nil⟩

theorem Onwards.nodup {tree : Tree Command} {place : Nat} {nodes : List Nat}
    (onwards : Onwards tree place nodes) : nodes.Nodup := by
  refine onwards.falling.imp ?_
  rintro earlier later falls rfl
  exact Nat.lt_irrefl _ falls

theorem Onwards.length_le {tree : Tree Command} {place : Nat} {nodes : List Nat}
    (onwards : Onwards tree place nodes) : nodes.length ≤ tree.size := by
  have inside : nodes ⊆ List.range' 1 tree.size := by
    intro node member
    obtain ⟨command, carried⟩ := Option.isSome_iff_exists.mp (onwards.carried node member)
    have known := Tree.le_size_of_item? carried
    have inner : node ≠ 0 := by
      rintro rfl
      cases carried
    exact List.mem_range'_1.mpr (by omega)
  have counted := (onwards.nodup.subperm inside).length_le
  rwa [List.length_range'] at counted

theorem followLogged_onwards (cursor : Cursor) (flow : Flow) (stage : Stage) :
    Onwards run.tree (run.tree.remaining cursor)
      (returned (run.followLogged language cursor flow stage).1) := by
  fun_induction followLogged language run cursor flow stage with
  | case1 | case2 | case3 | case4 | case5 | case6 | case7 | case8 => exact .nil _ _
  | case9 run cursor stage count next jump moved back command carried answer after asked followed ih =>
    have forward := Tree.remaining_advance?_lt jump
    refine ⟨?_, ?_, ?_⟩
    · exact List.forall_mem_cons.mpr ⟨by rw [carried]; rfl, ih.carried⟩
    · refine List.forall_mem_cons.mpr ⟨by rw [Cursor.back_node back]; exact forward, ?_⟩
      intro node member
      exact Nat.lt_trans (ih.below node member) forward
    · refine List.pairwise_cons.mpr ⟨fun node member => ?_, ih.falling⟩
      rw [Cursor.back_node back]
      exact ih.below node member
  | case10 run cursor stage count next jump moved back command carried failure after asked =>
    have forward := Tree.remaining_advance?_lt jump
    refine ⟨?_, ?_, List.pairwise_singleton _ _⟩
    · exact List.forall_mem_singleton.mpr (by rw [carried]; rfl)
    · exact List.forall_mem_singleton.mpr (by rw [Cursor.back_node back]; exact forward)

theorem performed_followLogged (cursor : Cursor) (flow : Flow) (stage : Stage) :
    performed (run.followLogged language cursor flow stage).1 = [] := by
  fun_induction followLogged language run cursor flow stage with
  | case9 run cursor stage count next jump moved back command carried answer after asked followed ih =>
    exact ih
  | _ => rfl

theorem length_followLogged (cursor : Cursor) (flow : Flow) (stage : Stage) :
    (run.followLogged language cursor flow stage).1.length =
      (returned (run.followLogged language cursor flow stage).1).length := by
  fun_induction followLogged language run cursor flow stage with
  | case9 run cursor stage count next jump moved back command carried answer after asked followed ih =>
    exact congrArg (· + 1) ih
  | _ => rfl

/-- `follow` as a plain loop that gives up after some rounds. -/
def followFor : Nat → Run σ → Cursor → Flow → Stage → Option (Run σ × Stage)
  | 0, _, _, _, _ => none
  | rounds + 1, run, cursor, flow, stage =>
    match flow with
    | .finish => some (run.stop, stage)
    | .stay | .advance 0 =>
      match cursor.phase with
      | .enter => some (run, stage)
      | .back => some ({ run with cursor := some (.enter cursor.node), state := none }, stage)
    | .advance (count + 1) =>
      match run.tree.advance? cursor (count + 1) with
      | none => some (run.stop, stage)
      | some next =>
        let moved := { run with cursor := some next, state := none }
        match next.phase with
        | .enter => some (moved, stage)
        | .back =>
          match run.tree.item? next.node with
          | none => some (moved.stop, stage)
          | some command =>
            match language.childrenDone (run.context next.node) command stage with
            | (.ok answer, after) => followFor rounds moved next answer after
            | (.error failure, after) => some (moved.fail next.node command failure after)

theorem followFor_eq {rounds : Nat} (cursor : Cursor) (flow : Flow) (stage : Stage)
    (enough : (run.followLogged language cursor flow stage).1.length ≤ rounds) :
    followFor language (rounds + 1) run cursor flow stage =
      some (run.follow language cursor flow stage) := by
  rw [← followLogged_eq]
  fun_induction followLogged language run cursor flow stage generalizing rounds with
  | case1 => rfl
  | case2 _ _ _ phase | case3 _ _ _ phase | case4 _ _ _ phase | case5 _ _ _ phase =>
    simp only [followFor, phase]
  | case6 run cursor stage count out => simp only [followFor, out]
  | case7 run cursor stage count next jump moved =>
    rw [followFor]
    simp only [*]
    rfl
  | case8 run cursor stage count next jump moved phase =>
    rw [followFor]
    simp only [*]
    rfl
  | case9 run cursor stage count next jump moved phase command carried answer after asked followed =>
    rename_i ih
    obtain ⟨rounds, rfl⟩ := Nat.exists_eq_add_of_le' (Nat.le_trans (Nat.le_add_left 1 _) enough)
    rw [followFor]
    simp only [jump, phase, carried, asked]
    exact ih (Nat.le_of_succ_le_succ enough)
  | case10 run cursor stage count next jump moved phase command carried failure after =>
    rw [followFor]
    simp only [*]
    rfl

/-- The loop that follows jumps is over after one round more than there are nodes at the most. -/
theorem follow_ends (cursor : Cursor) (flow : Flow) (stage : Stage) :
    followFor language (run.tree.size + 1) run cursor flow stage =
      some (run.follow language cursor flow stage) := by
  apply followFor_eq
  rw [length_followLogged]
  exact (followLogged_onwards language run cursor flow stage).length_le

variable {language run}

theorem Ready.prepare_eq {node : Nat} {command : Command} {stage begun : Stage}
    {calls : List (Call σ)} {state : σ}
    (ready : Ready language run node command stage calls state begun) :
    run.prepare language node command stage = (.ok state, begun) := by
  unfold prepare
  cases ready with
  | held state held => rw [held]
  | fresh state after idle begins => rw [idle]; exact begins

theorem Ready.opening {node : Nat} {command : Command} {stage begun : Stage}
    {calls : List (Call σ)} {state : σ}
    (ready : Ready language run node command stage calls state begun)
    (answer : Except Failure (Flow × σ)) :
    let opening := calls ++ [.perform node state answer]
    opening.length ≤ 2 ∧ returned opening = [] ∧ performed opening = [node] := by
  cases ready with
  | held => exact ⟨Nat.le_succ 1, rfl, rfl⟩
  | fresh => exact ⟨Nat.le_refl 2, rfl, rfl⟩

/-- The calls of one tick: one command at the most, and no node is come back to twice. -/
structure Brief (tree : Tree Command) (calls : List (Call σ)) : Prop where
  returns : ∃ place, Onwards tree place (returned calls)
  performs : (performed calls).length ≤ 1
  length_le : calls.length ≤ (returned calls).length + 2

theorem Brief.nodup {tree : Tree Command} {calls : List (Call σ)} (brief : Brief tree calls) :
    (returned calls).Nodup ∧ ∀ node ∈ returned calls, (tree.item? node).isSome = true := by
  obtain ⟨place, onwards⟩ := brief.returns
  exact ⟨onwards.nodup, onwards.carried⟩

theorem Brief.bounded {tree : Tree Command} {calls : List (Call σ)} (brief : Brief tree calls) :
    calls.length ≤ tree.size + 2 := by
  obtain ⟨place, onwards⟩ := brief.returns
  exact Nat.le_trans brief.length_le (Nat.add_le_add_right onwards.length_le 2)

/-- What comes before the first jump, together with the jumps. -/
theorem Brief.of_opening (language : Language σ) (opening : List (Call σ))
    (short : opening.length ≤ 2)
    (silent : returned opening = []) (single : (performed opening).length ≤ 1) (origin : Run σ)
    (cursor : Cursor) (flow : Flow) (stage : Stage) :
    Brief origin.tree (opening ++ (origin.followLogged language cursor flow stage).1) := by
  have onwards := followLogged_onwards language origin cursor flow stage
  have performs := performed_followLogged language origin cursor flow stage
  have length := length_followLogged language origin cursor flow stage
  have returns : returned (opening ++ (origin.followLogged language cursor flow stage).1) =
      returned (origin.followLogged language cursor flow stage).1 := by
    rw [returned, List.filterMap_append, ← returned, silent, List.nil_append, ← returned]
  refine ⟨⟨_, by rw [returns]; exact onwards⟩, ?_, ?_⟩
  · rw [performed, List.filterMap_append, ← performed, ← performed, performs, List.append_nil]
    exact single
  · rw [returns, List.length_append, length]
    omega

theorem Brief.of_silent {tree : Tree Command} {calls : List (Call σ)} (short : calls.length ≤ 2)
    (silent : returned calls = []) (single : (performed calls).length ≤ 1) : Brief tree calls :=
  ⟨⟨0, by rw [silent]; exact .nil tree 0⟩, single, by rw [silent]; exact short⟩

theorem tickLogged_brief (language : Language σ) (run : Run σ) (stage : Stage) :
    Brief run.tree (run.tickLogged language stage).1 := by
  cases located : run.cursor with
  | none =>
    simp only [tickLogged, located]
    exact .of_silent (Nat.zero_le 2) rfl (Nat.zero_le 1)
  | some cursor =>
    cases carried : run.tree.item? cursor.node with
    | none =>
      rw [tickLogged_root stage located carried]
      exact .of_opening language [] (Nat.zero_le 2) rfl (Nat.zero_le 1) run cursor _ _
    | some command =>
      cases inPlace : language.runsBeside command && !run.isParallel && !run.moving with
      | true =>
        rw [tickLogged_beside stage located carried inPlace]
        exact .of_opening language [] (Nat.zero_le 2) rfl (Nat.zero_le 1) run cursor _ _
      | false =>
        have turn := tickLogged_turn stage located carried inPlace
        generalize run.tickLogged language stage = ticked at turn ⊢
        cases turn with
        | refused failure after idle begins =>
          exact .of_silent (Nat.le_succ 1) rfl (Nat.zero_le 1)
        | failed calls state begun failure after ready done =>
          obtain ⟨short, silent, performs⟩ := ready.opening (.error failure)
          exact .of_silent short silent (by rw [performs]; exact Nat.le_refl 1)
        | done calls state begun flow kept after ready done =>
          obtain ⟨short, silent, performs⟩ := ready.opening (.ok (flow, kept))
          dsimp only
          rw [List.append_cons]
          exact .of_opening language _ short silent (by rw [performs]; exact Nat.le_refl 1)
            { run with state := some kept } cursor flow after

/-- A command that a tick performs is the one under the cursor. -/
theorem perform_of_tickLogged {stage : Stage} {node : Nat} {given : σ}
    {answer : Except Failure (Flow × σ)}
    (member : .perform node given answer ∈ (run.tickLogged language stage).1) :
    ∃ cursor command begun, run.cursor = some cursor ∧ cursor.node = node ∧
      run.tree.item? node = some command ∧
      (language.runsBeside command && !run.isParallel && !run.moving) = false ∧
      run.prepare language node command stage = (.ok given, begun) ∧
      (language.perform (run.context node) command given begun).1 = answer := by
  have later (origin : Run σ) (cursor : Cursor) (flow : Flow) (after : Stage) :
      .perform node given answer ∉ (origin.followLogged language cursor flow after).1 := by
    intro among
    have listed : node ∈ performed (origin.followLogged language cursor flow after).1 :=
      List.mem_filterMap.mpr ⟨_, among, rfl⟩
    rw [performed_followLogged] at listed
    cases listed
  cases located : run.cursor with
  | none =>
    simp only [tickLogged, located] at member
    cases member
  | some cursor =>
    cases carried : run.tree.item? cursor.node with
    | none =>
      rw [tickLogged_root stage located carried] at member
      exact absurd member (later _ _ _ _)
    | some command =>
      cases inPlace : language.runsBeside command && !run.isParallel && !run.moving with
      | true =>
        rw [tickLogged_beside stage located carried inPlace] at member
        exact absurd member (later _ _ _ _)
      | false =>
        have turn := tickLogged_turn stage located carried inPlace
        generalize run.tickLogged language stage = ticked at turn member
        cases turn with
        | refused failure after idle begins => simp at member
        | failed calls state begun failure after ready done =>
          rcases List.mem_append.mp member with opening | only
          · cases ready <;> simp at opening
          · cases List.mem_singleton.mp only
            exact ⟨cursor, command, begun, rfl, rfl, carried, inPlace, ready.prepare_eq,
              congrArg Prod.fst done⟩
        | done calls state begun flow kept after ready done =>
          rcases List.mem_append.mp member with opening | rest
          · cases ready <;> simp at opening
          · rcases List.mem_cons.mp rest with same | closing
            · cases same
              exact ⟨cursor, command, begun, rfl, rfl, carried, inPlace, ready.prepare_eq,
                congrArg Prod.fst done⟩
            · exact absurd closing (later _ _ _ _)

/-- Only the command under the cursor is performed. -/
theorem node?_of_performed {prompt : Prompt} {visited : Nat}
    (performs : visited ∈ performed (run.calls language prompt)) : run.node? = some visited := by
  obtain ⟨call, member, named⟩ := List.mem_filterMap.mp performs
  cases prompt with
  | tick stage =>
    cases call with
    | perform node given answer =>
      obtain ⟨cursor, _, _, located, here, _⟩ := perform_of_tickLogged member
      cases named
      rw [node?, located, Option.map_some, here]
    | _ => cases named
  | listen event =>
    rw [calls, listenLogged] at member
    split at member
    · cases List.mem_singleton.mp member
      cases named
    · cases member
  | draw =>
    rw [calls, drawLogged] at member
    split at member
    · cases List.mem_singleton.mp member
      cases named
    · cases member

end Run

end TileScript
