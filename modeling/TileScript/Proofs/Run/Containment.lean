import TileScript.Proofs.Run.ControlFlow
import TileScript.Proofs.Run.Lifecycle
import TileScript.Proofs.Tree.Subtrees

namespace TileScript

namespace Tree

variable {tree : Tree Command} {outer loop node next : Nat} {condition : Condition}

/-- What follows a node of a loop's body is in the loop. -/
theorem after_holds (placed : ∀ node, WellPlaced tree node)
    (isLoop : tree.item? loop = some (.whileLoop condition)) (below : loop ∈ tree.ancestors node) :
    ∃ next, tree.after node = some next ∧ tree.Holds loop next := by
  have inner := ne_zero_of_mem_ancestors below
  fun_induction after tree node with
  | case1 node sibling next =>
    exact ⟨sibling, rfl, .inr (ancestors_nextSibling? next ▸ below)⟩
  | case2 node last orphan =>
    obtain ⟨parent, hangs, _⟩ := mem_ancestors_iff.mp below
    cases orphan.symm.trans hangs
  | case3 node last hangs =>
    obtain ⟨parent, above, top, _⟩ := mem_ancestors_iff.mp below
    cases hangs.symm.trans above
    exact absurd rfl top
  | case4 node last parent hangs top other carried =>
    by_cases here : parent = loop
    · exact ⟨parent, rfl, .inl here⟩
    · exact ⟨parent, rfl, .inr (mem_ancestors_of_parent? hangs below here)⟩
  | case5 node last parent hangs top carried orphan =>
    obtain ⟨menu, above, _⟩ := (placed parent).choiceInMenu carried
    cases orphan.symm.trans above
  | case6 node last parent hangs top carried menu inMenu ih =>
    have branch : parent ≠ loop := fun same => by cases (same ▸ carried).symm.trans isLoop
    have outside := mem_ancestors_of_parent? hangs below branch
    refine ih (mem_ancestors_of_parent? inMenu outside fun same => ?_)
    -- A branch stands directly below a menu, so the loop is further out.
    obtain ⟨known, above, isMenu⟩ := (placed parent).choiceInMenu carried
    cases inMenu.symm.trans above
    simp [Draft.carries, same, isLoop, Command.isMenu] at isMenu
  | case7 node last parent hangs top noLoop noChoice ih =>
    exact ih (mem_ancestors_of_parent? hangs below fun same => noLoop condition (same ▸ isLoop))

/-- A run that enters a node of a loop stays in the loop, unless the node is the loop itself and has
no body. -/
theorem into_holds (placed : ∀ node, WellPlaced tree node)
    (isLoop : tree.item? loop = some (.whileLoop condition)) (inner : loop ≠ 0)
    (holds : tree.Holds loop node) (body : node = loop → tree.firstChild? loop ≠ none) :
    ∃ next, tree.into node = some next ∧ tree.Holds loop next := by
  rw [into]
  cases first : tree.firstChild? node with
  | some child => exact ⟨child, rfl, holds_child inner (parent?_firstChild? first) holds⟩
  | none =>
    rcases holds with rfl | below
    · exact absurd first (body rfl)
    · exact after_holds placed isLoop below

theorem after_root (tree : Tree Command) : tree.after 0 = none := by
  rw [after_of_last tree.nextSibling?_root]
  rfl

/-- What follows a loop, or anything around it, is outside the loop. -/
theorem not_holds_after (around : tree.Holds node loop) (after : tree.after node = some next) :
    ¬ tree.Holds loop next := by
  have above {outer : Nat} (around : loop = outer ∨ outer ∈ tree.ancestors loop)
      (holds : tree.Holds loop outer) : outer = loop := by
    rcases around with same | below
    · exact same.symm
    · rcases holds with same | beneath
      · exact same
      · have := lt_of_mem_ancestors below
        have := lt_of_mem_ancestors beneath
        omega
  fun_induction Tree.after tree node with
  | case1 node sibling beside =>
    cases after
    intro holds
    have later := lt_nextSibling? beside
    have level := ancestors_nextSibling? beside
    rcases holds with rfl | below
    · rcases around with same | under
      · omega
      · exact absurd (lt_of_mem_ancestors (level ▸ under)) (Nat.lt_irrefl _)
    · have beneath : tree.Holds loop node := .inr (level ▸ below)
      cases above around beneath
      exact absurd (lt_of_mem_ancestors (level ▸ below)) (Nat.lt_irrefl _)
  | case2 | case3 | case5 => cases after
  | case4 node last parent hangs top outer carried =>
    cases after
    intro holds
    have under := mem_ancestors_below (parent_mem_ancestors hangs top) around
    have := lt_of_mem_ancestors under
    cases above (.inr under) holds
    omega
  | case6 node last parent hangs top carried menu inMenu ih =>
    have inner : menu ≠ 0 := by
      rintro rfl
      rw [after_root] at after
      cases after
    have under := mem_ancestors_below (parent_mem_ancestors hangs top) around
    exact ih (.inr (ancestors_trans (parent_mem_ancestors inMenu inner) under)) after
  | case7 node last parent hangs top noLoop noChoice ih =>
    exact ih (.inr (mem_ancestors_below (parent_mem_ancestors hangs top) around)) after

/-- A break goes on after the innermost loop, which is inside every other loop around it. -/
theorem enclosingLoop?_holds (isLoop : tree.item? loop = some (.whileLoop condition))
    (below : loop ∈ tree.ancestors node) :
    ∃ innermost, Plain.enclosingLoop? tree node = some innermost ∧ tree.Holds loop innermost := by
  have loops : ((tree.item? loop).map Command.isLoop).getD false = true := by
    rw [isLoop]
    rfl
  have some : (Plain.enclosingLoop? tree node).isSome = true :=
    List.find?_isSome.mpr ⟨loop, below, loops⟩
  obtain ⟨innermost, found⟩ := Option.isSome_iff_exists.mp some
  refine ⟨innermost, found, ?_⟩
  obtain ⟨_, nearer, outer, split, none⟩ := List.find?_eq_some_iff_append.mp found
  have above : innermost :: outer <:+ node :: tree.ancestors node :=
    ⟨node :: nearer, by rw [split]; rfl⟩
  rw [split, List.mem_append, List.mem_cons] at below
  rcases below with early | same | further
  · have passed := none loop early
    rw [loops] at passed
    cases passed
  · exact .inl same.symm
  · exact .inr (ancestors_of_suffix above ▸ further)

end Tree

namespace Run

inductive EndsLoop (run : Run Activity) (world : World) (loop : Nat) : Nat → Command → Prop where
  | exhausted (condition : Condition)
      (fails : (run.context loop).evaluate world condition = .ok false) :
      EndsLoop run world loop loop (.whileLoop condition)
  | bodiless (condition : Condition)
      (holds : (run.context loop).evaluate world condition = .ok true)
      (bare : run.tree.firstChild? loop = none) :
      EndsLoop run world loop loop (.whileLoop condition)
  | broken (node : Nat) (innermost : Plain.enclosingLoop? run.tree node = some loop) :
      EndsLoop run world loop node .breakLoop
  | stopped (node : Nat) : EndsLoop run world loop node .stopReaction

structure Decided (run : Run Activity) (world : World) (node : Nat) (command : Command) :
    Prop where
  picked : ∀ choices cancel, command = .displayChoice choices cancel →
    ∃ index, run.picked? = some index
  evaluated : ∀ condition, command = .whileLoop condition →
    ∃ holds, (run.context node).evaluate world condition = .ok holds

section Destination

variable {run : Run Activity} {world : World} {loop node : Nat} {command : Command}
  {condition : Condition}

theorem destination_holds (placed : ∀ node, WellPlaced run.tree node)
    (isLoop : run.tree.item? loop = some (.whileLoop condition)) (inner : loop ≠ 0)
    (holds : run.tree.Holds loop node) (carried : run.tree.item? node = some command)
    (decided : run.Decided world node command) (lasts : ¬ run.EndsLoop world loop node command) :
    ∃ next, run.destination world node command = some next ∧ run.tree.Holds loop next := by
  by_cases here : node = loop
  · subst here
    cases carried.symm.trans isLoop
    obtain ⟨value, evaluated⟩ := decided.evaluated condition rfl
    cases value with
    | false => exact absurd (.exhausted condition evaluated) lasts
    | true =>
      rw [destination, evaluated]
      exact Tree.into_holds placed isLoop inner holds
        (fun _ bare => lasts (.bodiless condition evaluated bare))
  · have below := holds.resolve_left here
    have into := Tree.into_holds placed isLoop inner holds (fun same => absurd same here)
    have after := Tree.after_holds placed isLoop below
    cases command with
    | ifThen inside hasElse =>
      rw [destination]
      split
      · rename_i sibling _ next
        split
        · have level := Tree.ancestors_nextSibling? next
          have later := Tree.lt_of_mem_ancestors (level ▸ below)
          exact Tree.into_holds placed isLoop inner (.inr (level ▸ below)) (fun same => by omega)
        · exact after
      · exact after
      · exact into
    | whileLoop inside =>
      rw [destination]
      split
      · exact after
      · exact into
    | breakLoop =>
      obtain ⟨innermost, found, around⟩ := Tree.enclosingLoop?_holds isLoop below
      rw [destination, found, Option.bind_some]
      rcases around with rfl | further
      · exact absurd (.broken node found) lasts
      · exact Tree.after_holds placed isLoop further
    | stopReaction => exact absurd (.stopped node) lasts
    | choice =>
      rw [destination]
      cases first : run.tree.firstChild? node with
      | some child =>
        exact ⟨child, rfl, Tree.holds_child inner (Tree.parent?_firstChild? first) holds⟩
      | none =>
        obtain ⟨menu, hangs, isMenu⟩ := (placed node).choiceInMenu carried
        rw [Option.none_or, hangs, Option.bind_some]
        refine Tree.after_holds placed isLoop
          (Tree.mem_ancestors_of_parent? hangs below fun same => ?_)
        simp [Draft.carries, same, isLoop, Command.isMenu] at isMenu
    | displayChoice choices cancel =>
      obtain ⟨index, picked⟩ := decided.picked choices cancel rfl
      rw [destination, picked, Option.bind_some]
      cases located : (run.tree.children node)[index]? with
      | none => exact after
      | some child =>
        have hangs := Tree.mem_children.mp (List.mem_of_getElem? located)
        exact ⟨child, rfl, Tree.holds_child inner hangs holds⟩
    | moveObject object steps waitEnd framesPerStep =>
      rw [destination]
      split
      · exact into
      · exact after
    | elseBranch => exact after
    | _ => exact into

theorem EndsLoop.leaves (ends : run.EndsLoop world loop node command) {next : Nat}
    (goes : run.destination world node command = some next) : ¬ run.tree.Holds loop next := by
  cases ends with
  | exhausted condition fails =>
    rw [destination, fails] at goes
    exact Tree.not_holds_after (.inl rfl) goes
  | bodiless condition holds bare =>
    rw [destination, holds] at goes
    simp only [Tree.into, bare, Option.none_or] at goes
    exact Tree.not_holds_after (.inl rfl) goes
  | broken node innermost =>
    rw [destination, innermost] at goes
    exact Tree.not_holds_after (.inl rfl) goes
  | stopped node => cases goes

end Destination

section Tick

variable {levels node : Nat} {run : Run Activity} {command : Command}
  {activity kept : Activity} {stage after : Stage} {flow : Flow}

theorem performLocal_of_perform
    (done : (Language.within .inert levels).perform (run.context node) command activity stage =
      (.ok (flow, kept), after)) :
    Standard.performPlain (run.context node) command stage = none ∧
        (∀ choices cancel, command ≠ .displayChoice choices cancel) ∨
      Standard.performLocal (run.context node) command activity stage =
        .ok (flow, kept, after) := by
  rcases Language.perform_cases levels (run.context node) command activity stage with
    ⟨_, _, _, rfl, _⟩ | ⟨_, _, _, _, _, rfl, _⟩ | here
  · exact .inl ⟨rfl, nofun⟩
  · exact .inl ⟨rfl, nofun⟩
  · rw [here] at done
    split at done
    · cases done
    · rename_i performed
      cases done
      exact .inr performed

theorem performPlain_of_perform
    (done : (Language.within .inert levels).perform (run.context node) command activity stage =
      (.ok (flow, kept), after)) :
    Standard.performPlain (run.context node) command stage = none ∨
      Standard.performPlain (run.context node) command stage = some (.ok (flow, after)) := by
  rcases performLocal_of_perform done with ⟨lasting, _⟩ | here
  · exact .inl lasting
  · unfold Standard.performLocal at here
    split at here
    case h_5 =>
      split at here
      · cases here
      · cases here
      · rename_i performed
        cases here
        exact .inr performed
    case h_6 => cases here
    all_goals exact .inl rfl

/-- A command without a state never asks to stay. -/
theorem performPlain_moves
    (done : Standard.performPlain (run.context node) command stage = some (.ok (flow, after))) :
    flow ≠ .stay := by
  cases command with
  | choice =>
    simp only [Standard.performPlain, Plain.choice, Option.some.injEq] at done
    split at done <;> cases done <;> nofun
  | ifThen condition hasElse =>
    simp only [Standard.performPlain, Plain.ifThen, Option.some.injEq] at done
    split at done <;> cases done <;> nofun
  | whileLoop condition =>
    simp only [Standard.performPlain, Plain.whileLoop, Option.some.injEq] at done
    split at done <;> cases done <;> nofun
  | breakLoop =>
    simp only [Standard.performPlain, Plain.breakLoop, Option.some.injEq] at done
    split at done <;> cases done <;> nofun
  | elseBranch | stopReaction =>
    cases done
    nofun
  | setVariable id operation value =>
    rw [(Plain.setVariable_deed (Option.some.inj done)).1]
    nofun
  | sendEvent receiver system event parameters =>
    rw [(Plain.sendEvent_deed (Option.some.inj done)).1]
    nofun
  | teleport map position orientation =>
    rw [(Plain.teleport_deed (Option.some.inj done)).1]
    nofun
  | changeState object state operation =>
    rw [(Plain.changeState_deed (Option.some.inj done)).1]
    nofun
  | removeObject object =>
    rw [(Plain.removeObject_deed (Option.some.inj done)).1]
    nofun
  | _ => cases done

theorem perform_decided
    (current : ∀ menu, activity = .menu menu → run.picked? = menu.picked)
    (moves : flow ≠ .stay)
    (done : (Language.within .inert levels).perform (run.context node) command activity stage =
      (.ok (flow, kept), after)) :
    run.Decided stage.world node command where
  picked := by
    rintro choices cancel rfl
    obtain ⟨_, noMenu⟩ | here := performLocal_of_perform done
    · exact absurd rfl (noMenu choices cancel)
    · cases activity with
      | menu menu =>
        cases here
        cases picked : menu.picked with
        | none => simp [Menu.flow, picked] at moves
        | some index => exact ⟨index, (current menu rfl).trans picked⟩
      | _ => cases here
  evaluated := by
    rintro condition rfl
    have performed := (performPlain_of_perform done).resolve_left (by simp [Standard.performPlain])
    simp only [Standard.performPlain, Plain.whileLoop, Option.some.injEq] at performed
    split at performed
    · cases performed
    · rename_i holds
      exact ⟨true, holds⟩
    · rename_i fails
      exact ⟨false, fails⟩

theorem decided_of_runsBeside {world : World} (beside : command.runsBeside = true) :
    run.Decided world node command where
  picked := by
    rintro choices cancel rfl
    cases beside
  evaluated := by
    rintro condition rfl
    cases beside

theorem flow_of_runsBeside (beside : command.runsBeside = true)
    (done : (Language.within .inert levels).perform (run.context node) command activity stage =
      (.ok (flow, kept), after)) : flow = .next ∨ flow = .stay := by
  cases command with
  | moveObject object steps waitEnd framesPerStep =>
    rcases Language.perform_cases levels (run.context node)
        (.moveObject object steps waitEnd framesPerStep) activity stage with
      ⟨_, _, _, same, _⟩ | ⟨_, _, _, _, _, same, _⟩ | here
    · cases same
    · cases same
    · rw [here] at done
      cases activity with
      | walking walk =>
        simp only [Standard.performLocal] at done
        split at done
        · cases done
        · rename_i performed
          split at performed
          · cases performed
          · rename_i walked
            cases performed
            cases done
            exact (Walk.tick_ok walked).1
      | _ => cases done
  | _ => cases beside

inductive Arrival (run : Run Activity) (stage : Stage) (node : Nat) (command : Command) :
    Option Cursor → Prop where
  | stays (lasting : Standard.performPlain (run.context node) command stage = none) :
      Arrival run stage node command run.cursor
  | goes (decided : run.Decided stage.world node command) :
      Arrival run stage node command
        ((run.destination stage.world node command).map .enter)
  | onward (beside : command.runsBeside = true) :
      Arrival run stage node command ((run.tree.into node).map .enter)

theorem arrival_of_leads {target : Option Nat} (placed : ∀ node, WellPlaced run.tree node)
    (leads : run.Leads node target flow)
    (done : (Language.within .inert levels).perform (run.context node) command activity stage =
      (.ok (flow, kept), after))
    (goes : flow ≠ .stay → run.Arrival stage node command (target.map .enter)) :
    run.Arrival stage node command
      ({ run with state := some kept }.follow (.within .inert levels) (.enter node) flow
        after).1.cursor := by
  let waiting : Run Activity := { run with state := some kept }
  change run.Arrival stage node command (waiting.follow _ _ flow after).1.cursor
  cases flow with
  | stay =>
    rw [follow]
    refine .stays ((performPlain_of_perform done).resolve_right fun performed => ?_)
    exact performPlain_moves performed rfl
  | advance steps =>
    have lands : waiting.tree.landing (waiting.tree.advance? (.enter node) steps) = target :=
      leads.2
    have placed : ∀ node, WellPlaced waiting.tree node := placed
    rw [follow_advance placed leads.1, lands]
    exact goes (by simp)
  | finish =>
    cases leads
    rw [follow]
    exact goes (by simp)

theorem tick_arrives (placed : ∀ node, WellPlaced run.tree node)
    (cursor : run.cursor = some (.enter node)) (carried : run.tree.item? node = some command)
    (steady : (run.tick (.within .inert levels) stage).1.failed = false) :
    run.Arrival stage node command (run.tick (.within .inert levels) stage).1.cursor := by
  cases inPlace : command.runsBeside && !run.isParallel && !run.moving with
  | true =>
    have leads := run.leads_skip node
    have forked := tick_beside stage cursor carried
      ((Language.runsBeside_within levels command).symm ▸ inPlace)
    simp only [Bool.and_eq_true, Bool.not_eq_true'] at inPlace
    have arrived : (run.tick (.within .inert levels) stage).1.cursor =
        (run.destination stage.world node command).map .enter := by
      rw [forked, destination_of_runsBeside inPlace.1.1 inPlace.2, ← leads.2]
      exact congrArg (fun ticked => ticked.1.cursor) (follow_advance placed leads.1)
    rw [arrived]
    exact .goes (decided_of_runsBeside inPlace.1.1)
  | false =>
    rcases tick_inPlace stage cursor carried
        ((Language.runsBeside_within levels command).symm ▸ inPlace) with
      ⟨failure, begun, _, ticked⟩ | ⟨_, begun, failure, performed, _, _, ticked⟩ |
      ⟨activity, begun, flow, kept, performed, ready, done, ticked⟩
    · rw [ticked, failed_of_fail] at steady
      cases steady
    · rw [ticked, failed_of_fail] at steady
      cases steady
    · cases stage_of_prepare ready
      have current : ∀ menu, activity = .menu menu → run.picked? = menu.picked := by
        rintro menu rfl
        exact picked?_of_prepare ready
      rw [ticked]
      by_cases alone : command.runsBeside = true ∧ run.moving = false
      · -- A run of a single command walks in place although it is no movement route.
        exact arrival_of_leads placed (leads_next_or_stay (flow_of_runsBeside alone.1 done)) done
          (fun _ => .onward alone.1)
      · have together : command.runsBeside = true → run.moving = true := by
          intro beside
          simpa [beside] using alone
        exact arrival_of_leads placed
          (perform_leads (placed node) carried together current done) done
          (fun moves => .goes (perform_decided current moves done))

theorem EndsLoop.performPlain_ne {loop : Nat} (ends : run.EndsLoop stage.world loop node command) :
    Standard.performPlain (run.context node) command stage ≠ none := by
  cases ends <;> nofun

theorem EndsLoop.runsBeside_eq {world : World} {loop : Nat}
    (ends : run.EndsLoop world loop node command) : command.runsBeside = false := by
  cases ends <;> rfl

theorem Arrival.leaves_iff {loop : Nat} {condition : Condition} {place : Option Cursor}
    (arrival : run.Arrival stage node command place) (placed : ∀ node, WellPlaced run.tree node)
    (cursor : run.cursor = some (.enter node)) (carried : run.tree.item? node = some command)
    (isLoop : run.tree.item? loop = some (.whileLoop condition))
    (holds : run.tree.Holds loop node) :
    (∀ next, place.map Cursor.node = some next → ¬ run.tree.Holds loop next) ↔
      run.EndsLoop stage.world loop node command := by
  have inner : loop ≠ 0 := Nat.pos_iff_ne_zero.mp (Tree.le_size_of_item? isLoop).1
  cases arrival with
  | stays lasting =>
    refine iff_of_false (fun leaves => ?_) (fun ends => ends.performPlain_ne lasting)
    exact leaves node (by rw [cursor]; rfl) holds
  | goes decided =>
    constructor
    · intro leaves
      by_contra lasts
      obtain ⟨next, goes, within⟩ :=
        destination_holds placed isLoop inner holds carried decided lasts
      exact leaves next (by rw [goes]; rfl) within
    · intro ends next reached
      rw [Option.map_map] at reached
      obtain ⟨target, goes, rfl⟩ := Option.map_eq_some_iff.mp reached
      exact ends.leaves goes
  | onward beside =>
    refine iff_of_false (fun leaves => ?_) (fun ends => ?_)
    · have body : node = loop → run.tree.firstChild? loop ≠ none := by
        rintro rfl
        cases carried.symm.trans isLoop
        cases beside
      obtain ⟨next, goes, within⟩ := Tree.into_holds placed isLoop inner holds body
      exact leaves next (by rw [goes]; rfl) within
    · cases ends.runsBeside_eq.symm.trans beside

end Tick

/-- The runs of a reaction, from its beginning or from a command that runs beside it, up to any
moment between two prompts. -/
inductive Plays (levels : Nat) (reaction : Reaction) : Run Activity → Prop where
  | fresh (trigger : Trigger) (moving holdsPause : Bool) (depth : Nat) :
      Plays levels reaction (fresh reaction trigger moving holdsPause depth)
  | beside (trigger : Trigger) (node : Nat) (inside : 0 < node ∧ node ≤ reaction.tree.size) :
      Plays levels reaction (.beside reaction trigger node)
  | respond {run : Run Activity} (plays : Plays levels reaction run) (prompt : Prompt) :
      Plays levels reaction (run.respond (.within .inert levels) prompt)

namespace Plays

variable {levels : Nat} {reaction : Reaction} {run : Run Activity}

theorem reaction_eq (plays : Plays levels reaction run) : run.reaction = reaction := by
  induction plays with
  | fresh | beside => rfl
  | respond plays prompt ih =>
    obtain ⟨_, _, _, same⟩ := respond_continues (.within .inert levels) _ prompt
    rw [same]
    exact ih

theorem seated (plays : Plays levels reaction run) : run.Seated := by
  induction plays with
  | fresh trigger moving holdsPause depth => exact .start reaction trigger moving depth holdsPause
  | beside trigger node inside => exact .of_enter rfl inside rfl
  | respond plays prompt ih => exact ih.respond prompt

end Plays

/--
A tick of a run that is in a loop leaves the loop exactly when it fails or something ends the loop.
-/
theorem tick_leaves_loop_iff {scope : Scope} {entries : List ScriptEntry} {reaction : Reaction}
    {levels loop node : Nat} {condition : Condition} {run : Run Activity} (stage : Stage)
    (compiled : compileScript scope entries = .ok reaction.tree)
    (isLoop : reaction.tree.item? loop = some (.whileLoop condition))
    (plays : Plays levels reaction run) (located : run.node? = some node)
    (holds : reaction.tree.Holds loop node) :
    let ticked := (run.tick (.within .inert levels) stage).1
    run.failed = false ∧ ∃ command, reaction.tree.item? node = some command ∧
      ((∀ next, ticked.node? = some next → ¬ reaction.tree.Holds loop next) ↔
        ticked.failed = true ∨ run.EndsLoop stage.world loop node command) := by
  obtain ⟨cursor, here, rfl⟩ := Option.map_eq_some_iff.mp located
  have seated := plays.seated
  cases plays.reaction_eq
  have placed : ∀ node, WellPlaced run.tree node := wellPlaced_of_compileScript compiled
  obtain ⟨command, carried⟩ := Tree.item?_of_inside (seated.inside cursor here)
  refine ⟨seated.not_failed here, command, carried, ?_⟩
  have entering : run.cursor = some (.enter cursor.node) := by
    rw [here, Cursor.enter, ← seated.entering cursor here]
  have rests := (seated.tick (.within .inert levels) stage).stopped
  cases failed : (run.tick (.within .inert levels) stage).1.failed with
  | true => simp [node?, rests failed]
  | false =>
    have leaves := (tick_arrives placed entering carried failed).leaves_iff placed entering carried
      isLoop holds
    rw [or_iff_right Bool.false_ne_true]
    exact leaves

def vigil : List ScriptEntry :=
  [⟨0, .whileLoop ⟨.constant (.bool true), .equal, .constant (.bool true)⟩⟩,
    ⟨0, .stopReaction⟩]

def vigilRun : Run Activity :=
  fresh ⟨.loose 0, "vigil", ((compileScript ⟨[], []⟩ vigil).toOption).getD .empty, false⟩
    {} false false 0

theorem vigil_ends_at_once :
    vigilRun.node? = some 1 ∧ (vigilRun.tick .standard ⟨{}, {}⟩).1.node? = some 2 ∧
      vigilRun.EndsLoop {} 1 1
        (.whileLoop ⟨.constant (.bool true), .equal, .constant (.bool true)⟩) := by
  have compiled : compileScript ⟨[], []⟩ vigil = .ok vigilRun.tree := rfl
  have moved : (vigilRun.tick .standard ⟨{}, {}⟩).1.node? = some 2 := by decide +kernel
  have steady : (vigilRun.tick .standard ⟨{}, {}⟩).1.failed = false := by decide +kernel
  have outside : ¬ vigilRun.tree.Holds 1 2 :=
    (by decide +kernel : ¬ (2 = 1 ∨ 1 ∈ vigilRun.tree.ancestors 2))
  have plays : Plays 8 vigilRun.reaction vigilRun := .fresh {} false false 0
  obtain ⟨_, command, carried, leaves⟩ :=
    tick_leaves_loop_iff ⟨{}, {}⟩ compiled rfl plays rfl (.inl rfl)
  cases carried
  refine ⟨rfl, moved, (leaves.mp fun next reached => ?_).resolve_left fun failed => ?_⟩
  · cases moved.symm.trans reached
    exact outside
  · cases steady.symm.trans failed

end Run

end TileScript
