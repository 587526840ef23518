import TileScript.Proofs.Language.Menus
import TileScript.Proofs.Run.Containment
import TileScript.Proofs.Run.Rounds
import TileScript.Proofs.Script.Checked

namespace TileScript

namespace Tree

structure Branch (tree : Tree Command) (menu branch : Nat) : Prop where
  hangs : tree.parent? branch = some menu
  isMenu : Draft.carries tree Command.isMenu menu = true
  isChoice : tree.item? branch = some .choice

variable {tree : Tree Command} {menu branch node next : Nat}

namespace Branch

theorem ne_zero (belongs : tree.Branch menu branch) : branch ≠ 0 :=
  Nat.ne_zero_of_lt (parent?_lt belongs.hangs)

theorem ne_menu (belongs : tree.Branch menu branch) {other : Nat}
    (isMenu : Draft.carries tree Command.isMenu other = true) : other ≠ branch := by
  rintro rfl
  rw [Draft.carries, belongs.isChoice] at isMenu
  cases isMenu

theorem ne_loop (belongs : tree.Branch menu branch) {other : Nat} {condition : Condition}
    (isLoop : tree.item? other = some (.whileLoop condition)) : other ≠ branch := by
  rintro rfl
  cases isLoop.symm.trans belongs.isChoice

/-- What follows a node below a branch is in the branch or outside the menu. -/
theorem after (belongs : tree.Branch menu branch) (placed : ∀ node, WellPlaced tree node)
    (below : branch ∈ tree.ancestors node) (after : tree.after node = some next)
    (holds : tree.Holds menu next) : tree.Holds branch next := by
  fun_induction Tree.after tree node with
  | case1 node sibling beside =>
    cases after
    exact .inr (ancestors_nextSibling? beside ▸ below)
  | case2 | case3 | case5 => cases after
  | case4 node last parent hangs top condition carried =>
    cases after
    exact .inr (mem_ancestors_of_parent? hangs below (belongs.ne_loop carried))
  | case6 node last parent hangs top carried outer inMenu ih =>
    by_cases here : parent = branch
    · -- The branch itself is done: its menu is left.
      subst here
      cases inMenu.symm.trans belongs.hangs
      exact absurd holds (not_holds_after (.inl rfl) after)
    · obtain ⟨known, above, isMenu⟩ := (placed parent).choiceInMenu carried
      cases inMenu.symm.trans above
      have outside := mem_ancestors_of_parent? hangs below here
      exact ih (mem_ancestors_of_parent? inMenu outside (belongs.ne_menu isMenu)) after
  | case7 node last parent hangs top noLoop noChoice ih =>
    exact ih (mem_ancestors_of_parent? hangs below fun same => noChoice (same ▸ belongs.isChoice))
      after

theorem into (belongs : tree.Branch menu branch) (placed : ∀ node, WellPlaced tree node)
    (below : branch ∈ tree.ancestors node) (into : tree.into node = some next)
    (holds : tree.Holds menu next) : tree.Holds branch next := by
  rw [Tree.into] at into
  cases first : tree.firstChild? node with
  | some child =>
    rw [first] at into
    cases into
    exact holds_child belongs.ne_zero (parent?_firstChild? first) (.inr below)
  | none =>
    rw [first, Option.none_or] at into
    exact belongs.after placed below into holds

/-- A break below a branch leaves a loop in the branch, or one around the whole menu. -/
theorem afterLoop (belongs : tree.Branch menu branch) (placed : ∀ node, WellPlaced tree node)
    (below : branch ∈ tree.ancestors node) {loop : Nat}
    (innermost : Plain.enclosingLoop? tree node = some loop) (after : tree.after loop = some next)
    (holds : tree.Holds menu next) : tree.Holds branch next := by
  have isLoop := List.find?_some innermost
  have other : loop ≠ branch := by
    rintro rfl
    rw [belongs.isChoice] at isLoop
    cases isLoop
  rcases holds_or_holds below (List.mem_of_find?_eq_some innermost) with inside | outside
  · exact belongs.after placed (inside.resolve_left other) after holds
  · have around := mem_ancestors_of_parent? belongs.hangs (outside.resolve_left other.symm)
    have beyond : tree.Holds loop menu := by
      by_cases here : menu = loop
      · exact .inl here
      · exact .inr (around here)
    exact absurd holds (not_holds_after beyond after)

end Branch

end Tree

def Prompt.event? : Prompt → Option InputEvent
  | listen event => some event
  | _ => none

def Prompt.isTick : Prompt → Bool
  | tick _ => true
  | _ => false

namespace Run

def heard (prompts : List Prompt) : List InputEvent := prompts.filterMap Prompt.event?

variable {σ : Type} {language : Language σ} {levels node outer inner : Nat}

def Within (run : Run σ) (outer : Nat) : Prop :=
  ∃ node, run.node? = some node ∧ run.tree.Holds outer node

/-- Until the run leaves the subtree of the outer node it is in that of the inner one, and performs
no command but those that are there. -/
def KeepsTo (language : Language σ) (run : Run σ) (outer inner : Nat) : Prop :=
  ∀ prompts, (∀ earlier prompt later, prompts = earlier ++ prompt :: later →
      (run.respondAll language earlier).Within outer) →
    (∀ visited ∈ performed (run.log language prompts), run.tree.Holds inner visited) ∧
      ((run.respondAll language prompts).Within outer →
        (run.respondAll language prompts).Within inner)

/-- A run keeps to the inner node if every prompt leaves it there or leads out of the outer node. -/
theorem keepsTo_of_respond {run : Run σ} (within : run.Within inner)
    (step : ∀ earlier prompt, (run.respondAll language earlier).Within inner →
      ((run.respondAll language earlier).respond language prompt).Within outer →
      ((run.respondAll language earlier).respond language prompt).Within inner) :
    run.KeepsTo language outer inner := by
  intro prompts
  -- From the end: each prompt finds the run where the ones before have left it.
  induction prompts using List.reverseRecOn with
  | nil =>
    intro _
    exact ⟨fun visited member => (nomatch member), fun _ => within⟩
  | append_singleton earlier prompt ih =>
    intro stays
    obtain ⟨past, settles⟩ := ih fun before passed later split =>
      stays before passed (later ++ [prompt]) (by rw [split, List.append_assoc, List.cons_append])
    have inside := settles (stays earlier prompt [] rfl)
    constructor
    · intro visited member
      rw [log_append, performed, List.filterMap_append, List.mem_append] at member
      rcases member with before | now
      · exact past visited before
      · obtain ⟨node, located, holds⟩ := inside
        rw [log, log, List.append_nil] at now
        cases located.symm.trans (node?_of_performed now)
        rw [tree_of_respondAll] at holds
        exact holds
    · rw [respondAll_append]
      exact step earlier prompt inside

section Branch

variable {run : Run Activity} {menu branch : Nat} {stage : Stage} {command : Command}

theorem destination_keeps (belongs : run.tree.Branch menu branch)
    (placed : ∀ node, WellPlaced run.tree node) (held : run.tree.Holds branch node)
    (carried : run.tree.item? node = some command) {world : World} {next : Nat}
    (goes : run.destination world node command = some next) (holds : run.tree.Holds menu next) :
    run.tree.Holds branch next := by
  have below (other : command.isChoice = false) : branch ∈ run.tree.ancestors node := by
    refine held.resolve_left fun same => ?_
    rw [same, belongs.isChoice] at carried
    cases carried
    cases other
  have into (other : command.isChoice = false) (goes : run.tree.into node = some next) :=
    belongs.into placed (below other) goes holds
  have after (other : command.isChoice = false) (goes : run.tree.after node = some next) :=
    belongs.after placed (below other) goes holds
  cases command with
  | ifThen condition hasElse =>
    rw [destination] at goes
    split at goes
    · rename_i sibling _ beside
      split at goes
      · exact belongs.into placed (Tree.ancestors_nextSibling? beside ▸ below rfl) goes holds
      · exact after rfl goes
    · exact after rfl goes
    · exact into rfl goes
  | whileLoop condition =>
    rw [destination] at goes
    split at goes
    · exact after rfl goes
    · exact into rfl goes
  | breakLoop =>
    rw [destination] at goes
    obtain ⟨loop, innermost, goes⟩ := Option.bind_eq_some_iff.mp goes
    exact belongs.afterLoop placed (below rfl) innermost goes holds
  | stopReaction => cases goes
  | choice =>
    rw [destination] at goes
    cases first : run.tree.firstChild? node with
    | some child =>
      rw [first] at goes
      cases goes
      exact Tree.holds_child belongs.ne_zero (Tree.parent?_firstChild? first) held
    | none =>
      obtain ⟨other, hangs, isMenu⟩ := (placed node).choiceInMenu carried
      rw [first, Option.none_or, hangs, Option.bind_some] at goes
      by_cases here : node = branch
      · subst here
        cases hangs.symm.trans belongs.hangs
        exact absurd holds (Tree.not_holds_after (.inl rfl) goes)
      · have outside := Tree.mem_ancestors_of_parent? hangs (held.resolve_left here)
          (belongs.ne_menu isMenu)
        exact belongs.after placed outside goes holds
  | displayChoice choices cancel =>
    rw [destination] at goes
    obtain ⟨index, _, goes⟩ := Option.bind_eq_some_iff.mp goes
    cases located : (run.tree.children node)[index]? with
    | some child =>
      rw [located] at goes
      cases goes
      exact Tree.holds_child belongs.ne_zero
        (Tree.mem_children.mp (List.mem_of_getElem? located)) held
    | none =>
      rw [located, Option.none_or] at goes
      exact after rfl goes
  | moveObject object steps waitEnd framesPerStep =>
    rw [destination] at goes
    split at goes
    · exact into rfl goes
    · exact after rfl goes
  | elseBranch => exact after rfl goes
  | _ => exact into rfl goes

theorem tick_within (belongs : run.tree.Branch menu branch)
    (placed : ∀ node, WellPlaced run.tree node) (seated : run.Seated) (within : run.Within branch)
    (stays : (run.tick (.within .inert levels) stage).1.Within menu) :
    (run.tick (.within .inert levels) stage).1.Within branch := by
  obtain ⟨node, located, held⟩ := within
  obtain ⟨cursor, here, rfl⟩ := Option.map_eq_some_iff.mp located
  obtain ⟨next, reached, holds⟩ := stays
  obtain ⟨command, carried⟩ := Tree.item?_of_inside (seated.inside cursor here)
  have entering : run.cursor = some (.enter cursor.node) := by
    rw [here, Cursor.enter, ← seated.entering cursor here]
  have same : (run.tick (.within .inert levels) stage).1.tree = run.tree := by
    obtain ⟨_, _, _, same⟩ := tick_continues (.within .inert levels) run stage
    rw [same]
    rfl
  rw [same] at holds
  refine ⟨next, reached, ?_⟩
  rw [same]
  have steady : (run.tick (.within .inert levels) stage).1.failed = false := by
    refine (seated.tick (.within .inert levels) stage).not_failed_of_live ?_
    obtain ⟨_, there, _⟩ := Option.map_eq_some_iff.mp reached
    rw [isFinished, there]
    rfl
  have arrival := tick_arrives placed entering carried steady
  rw [node?] at reached
  generalize (run.tick (.within .inert levels) stage).1.cursor = place at arrival reached
  cases arrival with
  | stays lasting =>
    cases located.symm.trans reached
    exact held
  | goes decided =>
    rw [Option.map_map] at reached
    obtain ⟨target, goes, rfl⟩ := Option.map_eq_some_iff.mp reached
    exact destination_keeps belongs placed held carried goes holds
  | onward beside =>
    rw [Option.map_map] at reached
    obtain ⟨target, goes, rfl⟩ := Option.map_eq_some_iff.mp reached
    refine belongs.into placed (held.resolve_left fun same => ?_) goes holds
    rw [same, belongs.isChoice] at carried
    cases carried
    cases beside

theorem keepsTo_branch (levels : Nat) (belongs : run.tree.Branch menu branch)
    (placed : ∀ node, WellPlaced run.tree node) (seated : run.Seated)
    (within : run.Within branch) : run.KeepsTo (.within .inert levels) menu branch := by
  apply keepsTo_of_respond within
  intro earlier prompt inside stays
  have same := tree_of_respondAll (.within .inert levels) run earlier
  cases prompt with
  | tick stage =>
    exact tick_within (same.symm ▸ belongs) (same.symm ▸ placed) (seated.respondAll earlier) inside
      stays
  | listen event =>
    rw [respond, listen]
    split
    · exact inside
    · exact inside
  | draw => exact inside

end Branch

def showing (run : Run Activity) (menu : Menu) : Run Activity :=
  { run with state := some (.menu menu) }

section Menu

variable {run : Run Activity} {choices : List String} {cancel : Option Nat} {menu : Menu}
  {stage : Stage}

theorem tick_menu (located : run.cursor = some (.enter node))
    (carried : run.tree.item? node = some (.displayChoice choices cancel))
    (ready : run.prepare (.within .inert levels) node (.displayChoice choices cancel) stage =
      (.ok (.menu menu), stage)) :
    run.tick (.within .inert levels) stage =
      (run.showing menu).follow (.within .inert levels) (.enter node)
        (menu.flow (run.context node)) stage := by
  have done : (Language.within .inert levels).perform (run.context node)
      (.displayChoice choices cancel) (.menu menu) stage =
        (.ok (menu.flow (run.context node), .menu menu), stage) := by
    cases levels <;> rfl
  refine tick_performs located carried ?_ ready done
  rw [Language.runsBeside_within]
  rfl

theorem tick_open (located : run.cursor = some (.enter node))
    (carried : run.tree.item? node = some (.displayChoice choices cancel))
    (ready : run.prepare (.within .inert levels) node (.displayChoice choices cancel) stage =
      (.ok (.menu menu), stage)) (unpicked : menu.picked = none) :
    run.tick (.within .inert levels) stage = (run.showing menu, stage) := by
  rw [tick_menu located carried ready, Menu.flow, unpicked, follow]
  rfl

theorem tick_picked (placed : ∀ node, WellPlaced run.tree node)
    (located : run.cursor = some (.enter node))
    (carried : run.tree.item? node = some (.displayChoice choices cancel)) {pick branch : Nat}
    (picked : menu.picked = some pick) (found : (run.tree.children node)[pick]? = some branch) :
    (run.showing menu).tick (.within .inert levels) stage = (run.moveTo (some branch), stage) := by
  have inside := (List.getElem?_eq_some_iff.mp found).1
  have offset := Tree.offsetToChild?_eq_some_iff.mpr ⟨inside, rfl⟩
  obtain ⟨child, here, jump⟩ := Tree.advance?_offsetToChild? offset
  cases found.symm.trans here
  have flow : menu.flow (run.context node) =
      .advance (1 + run.tree.widthOf ((run.tree.children node).take pick)) := by
    rw [Menu.flow, picked]
    change Flow.advance ((run.tree.offsetToChild? node pick).getD _) = _
    rw [offset, Option.getD_some]
  have ticked : (run.showing menu).tick (.within .inert levels) stage =
      (run.showing menu).follow _ _ (menu.flow (run.context node)) stage :=
    tick_menu located carried rfl
  have placed : ∀ node, WellPlaced (run.showing menu).tree node := placed
  have lands : (run.showing menu).tree.landing ((run.showing menu).tree.advance? (.enter node) _) =
      some branch := congrArg run.tree.landing jump
  rw [ticked, flow, follow_advance placed (by omega), lands]
  rfl

/-- A branch that is entered goes on with its first command; without any the menu is left. -/
theorem tick_choice {branch : Nat} (placed : ∀ node, WellPlaced run.tree node)
    (belongs : run.tree.Branch node branch) :
    ((run.moveTo (some branch)).tick (.within .inert levels) stage).1.cursor =
      ((run.tree.firstChild? branch).or (run.tree.after node)).map .enter := by
  let entered := run.moveTo (some branch)
  let begun : Run Activity := { entered with state := some Activity.plain }
  obtain ⟨steps, performed⟩ : ∃ steps,
      Plain.choice (entered.context branch) stage = .ok (.advance steps, stage) := by
    unfold Plain.choice
    split
    · exact ⟨1, rfl⟩
    · exact ⟨_, rfl⟩
  obtain ⟨positive, lands⟩ : begun.Leads branch (entered.destination {} branch .choice)
      (.advance steps) := choice_leads (placed branch) belongs.isChoice performed
  have done : (Language.within .inert levels).perform (entered.context branch) .choice .plain
      stage = (.ok (.advance steps, .plain), stage) := by
    have here : Standard.performLocal (entered.context branch) .choice .plain stage =
        .ok (.advance steps, .plain, stage) := by
      simp only [Standard.performLocal, Standard.performPlain, performed]
    cases levels <;> simp only [Language.within, Language.level, here]
  have ticked : entered.tick (.within .inert levels) stage =
      begun.follow (.within .inert levels) (.enter branch) (.advance steps) stage := by
    apply tick_performs rfl belongs.isChoice ?_ (Language.prepare_within levels _ branch _ _) done
    rw [Language.runsBeside_within]
    rfl
  have placed : ∀ node, WellPlaced begun.tree node := placed
  have target : entered.destination {} branch .choice =
      (run.tree.firstChild? branch).or ((run.tree.parent? branch).bind run.tree.after) := rfl
  change (entered.tick _ stage).1.cursor = _
  rw [ticked, follow_advance placed positive, lands, target, belongs.hangs]
  rfl

theorem command?_showing (located : run.cursor = some (.enter node))
    (carried : run.tree.item? node = some (.displayChoice choices cancel)) (menu : Menu) :
    (run.showing menu).command? = some (.displayChoice choices cancel) := by
  change (run.cursor.map _).bind _ = _
  rw [located]
  exact carried

theorem draw_showing (located : run.cursor = some (.enter node))
    (carried : run.tree.item? node = some (.displayChoice choices cancel)) (menu : Menu) :
    (run.showing menu).draw (.within .inert levels) = menu.lines choices := by
  rw [draw, command?_showing located carried]
  cases levels <;> rfl

theorem listen_showing (located : run.cursor = some (.enter node))
    (carried : run.tree.item? node = some (.displayChoice choices cancel)) (event : InputEvent) :
    ((run.showing menu).listen (.within .inert levels) event).1 =
      run.showing (menu.listen choices.length cancel event) := by
  rw [listen, command?_showing located carried]
  cases levels <;> rfl

/-- A shown menu hears all events, as long as every tick comes before the first pick. -/
theorem respondAll_showing (located : run.cursor = some (.enter node))
    (carried : run.tree.item? node = some (.displayChoice choices cancel)) (prompts : List Prompt)
    (early : ∀ earlier stage later, prompts = earlier ++ .tick stage :: later →
      ((heard earlier).foldl (Menu.listen choices.length cancel) menu).picked = none) :
    (run.showing menu).respondAll (.within .inert levels) prompts =
      run.showing ((heard prompts).foldl (Menu.listen choices.length cancel) menu) := by
  induction prompts using List.reverseRecOn with
  | nil => rfl
  | append_singleton earlier prompt ih =>
    have before := ih fun first stage later split => early first stage (later ++ [prompt])
      (by rw [split, List.append_assoc, List.cons_append])
    have hears : heard (earlier ++ [prompt]) = heard earlier ++ heard [prompt] :=
      List.filterMap_append
    rw [respondAll_append, before, hears, List.foldl_append]
    cases prompt with
    | tick stage =>
      have waits : (run.showing _).tick (.within .inert levels) stage = (_, stage) :=
        tick_open located carried rfl (early earlier stage [] rfl)
      exact congrArg Prod.fst waits
    | listen event => exact listen_showing located carried event
    | draw => rfl

/-- How a run waits in an open menu: the selected entry alone is marked, and ticks change nothing. -/
structure Waits (levels : Nat) (run : Run Activity) (choices : List String) (selected : Nat) :
    Prop where
  marks : Menu.Marks choices selected
    ((run.showing ⟨selected, none⟩).draw (.within .inert levels))
  stays : ∀ stage, (run.showing ⟨selected, none⟩).tick (.within .inert levels) stage =
    (run.showing ⟨selected, none⟩, stage)

/-- How a run goes on from a menu once an entry is picked: whatever else it hears, the next tick
enters the branch of the entry, which it keeps to until it leaves the menu. -/
structure Proceeds (levels : Nat) (run : Run Activity) (node selected pick branch : Nat) :
    Prop where
  listed : (run.tree.children node)[pick]? = some branch
  isChoice : run.tree.item? branch = some .choice
  settled : ∀ later, (∀ prompt ∈ later, prompt.isTick = false) →
    (run.showing ⟨selected, some pick⟩).respondAll (.within .inert levels) later =
      run.showing ⟨selected, some pick⟩
  enters : ∀ stage, (run.showing ⟨selected, some pick⟩).tick (.within .inert levels) stage =
    (run.moveTo (some branch), stage)
  begins : ∀ stage, ((run.moveTo (some branch)).tick (.within .inert levels) stage).1.cursor =
    ((run.tree.firstChild? branch).or (run.tree.after node)).map .enter
  keeps : (run.moveTo (some branch)).KeepsTo (.within .inert levels) node branch

theorem waits (located : run.cursor = some (.enter node))
    (carried : run.tree.item? node = some (.displayChoice choices cancel)) (levels selected : Nat) :
    run.Waits levels choices selected where
  marks := by
    rw [draw_showing located carried]
    exact Menu.lines_marks choices ⟨selected, none⟩
  stays _ := tick_open located carried rfl rfl

theorem proceeds {scope : Scope} {entries : List ScriptEntry} {pick branch : Nat}
    (compiled : compileScript scope entries = .ok run.tree)
    (located : run.cursor = some (.enter node)) (going : run.failed = false)
    (carried : run.tree.item? node = some (.displayChoice choices cancel))
    (listed : (run.tree.children node)[pick]? = some branch) (levels selected : Nat) :
    run.Proceeds levels node selected pick branch := by
  have placed := wellPlaced_of_compileScript compiled
  have hangs := Tree.mem_children.mp (List.mem_of_getElem? listed)
  have isMenu : Draft.carries run.tree Command.isMenu node = true := by
    rw [Draft.carries, carried]
    rfl
  have isChoice := choice_of_inMenu compiled hangs isMenu
  have belongs : run.tree.Branch node branch := ⟨hangs, isMenu, isChoice⟩
  refine ⟨listed, isChoice, fun later quiet => ?_, fun stage => ?_, fun stage => ?_, ?_⟩
  · rw [respondAll_showing located carried, Menu.foldl_listen_picked rfl]
    intro earlier stage after split
    cases quiet (.tick stage) (split ▸ List.mem_append_right _ List.mem_cons_self)
  · exact tick_picked placed located carried rfl listed
  · exact tick_choice placed belongs
  · have known := Tree.le_size_of_item? isChoice
    have seated : (run.moveTo (some branch)).Seated := .of_enter rfl known going
    exact keepsTo_branch levels belongs placed seated ⟨branch, rfl, .inl rfl⟩

/--
In a compiled script, a menu that a run has reached shows its first entry selected and waits. While
the events it hears pick nothing, the selection is where the direction keys have moved it, around
the ends, and is the only entry marked. The first event that picks an entry picks one of the list,
for good; with the next tick the run enters the branch of just this entry, begins with its first
command, and performs nothing but commands of this branch until it leaves the menu.
-/
theorem menu_enters_picked_branch {scope : Scope} {entries : List ScriptEntry}
    (compiled : compileScript scope entries = .ok run.tree)
    (located : run.cursor = some (.enter node)) (going : run.failed = false)
    (idle : run.state = none)
    (carried : run.tree.item? node = some (.displayChoice choices cancel))
    (nonempty : choices ≠ []) (levels : Nat) :
    (∀ stage, run.tick (.within .inert levels) stage = (run.showing .fresh, stage)) ∧
    ∀ before, (∀ event ∈ heard before, Menu.decides cancel event = false) →
      ∃ selected : Nat, (selected : Int) = Menu.descent (heard before) % choices.length ∧
        (run.showing .fresh).respondAll (.within .inert levels) before =
          run.showing ⟨selected, none⟩ ∧
        run.Waits levels choices selected ∧
        ∀ event, Menu.decides cancel event = true →
          ∃ pick branch, Menu.pick? cancel selected event = some pick ∧ pick < choices.length ∧
            (run.showing .fresh).respondAll (.within .inert levels) (before ++ [.listen event]) =
              run.showing ⟨selected, some pick⟩ ∧
            run.Proceeds levels node selected pick branch := by
  have checked := checked_of_compileScript compiled node
  have positive : 0 < choices.length := List.length_pos_iff.mpr nonempty
  constructor
  · intro stage
    apply tick_open located carried ?_ rfl
    rw [Language.prepare_within, idle]
    rfl
  · intro before undecided
    obtain ⟨selected, hears, place⟩ := Menu.foldl_listen_undecided positive _ undecided
    have waited : (run.showing .fresh).respondAll (.within .inert levels) before =
        run.showing ⟨selected, none⟩ := by
      rw [← hears]
      apply respondAll_showing located carried
      rintro earlier stage later rfl
      rw [heard, List.filterMap_append, List.forall_mem_append] at undecided
      obtain ⟨other, open', _⟩ := Menu.foldl_listen_undecided positive _ undecided.1
      exact congrArg Menu.picked open'
    refine ⟨selected, place, waited, waits located carried levels selected, ?_⟩
    intro event decision
    have decided := Menu.isSome_pick? cancel selected event
    rw [decision] at decided
    obtain ⟨pick, picks⟩ := Option.isSome_iff_exists.mp decided
    have inside : pick < choices.length := by
      apply Menu.pick?_lt (Menu.lt_of_emod positive place) _ picks
      rintro index rfl
      exact checked.cancelInRange choices index carried
    have listed : (run.tree.children node)[pick]? = some _ :=
      List.getElem?_eq_getElem (checked.fullMenu choices cancel carried ▸ inside)
    refine ⟨pick, _, picks, inside, ?_, proceeds compiled located going carried listed levels _⟩
    have settles : Menu.listen choices.length cancel ⟨selected, none⟩ event = _ :=
      Menu.listen_decides positive decision
    rw [picks] at settles
    rw [respondAll_append, waited, ← settles]
    exact listen_showing located carried event

end Menu

def curfew : List ScriptEntry :=
  [⟨0, .whileLoop ⟨.constant (.bool true), .equal, .constant (.bool true)⟩⟩,
    ⟨1, .displayChoice ["Stay", "Go home"] (some 0)⟩, ⟨2, .choice⟩, ⟨3, .breakLoop⟩, ⟨2, .choice⟩,
    ⟨3, .stopReaction⟩]

def curfewRun : Run Activity where
  reaction := ⟨.loose 0, "curfew", ((compileScript ⟨[], []⟩ curfew).toOption).getD .empty, false⟩
  trigger := {}
  cursor := some (.enter 2)

def hesitation : List Prompt :=
  [.tick ⟨{}, {}⟩, .listen (.keyPressed .up), .listen (.keyPressedAndRepeat .up), .draw,
    .tick ⟨{}, {}⟩]

theorem curfew_goes_home :
    (∀ event ∈ heard hesitation, Menu.decides (some 0) event = false) ∧
      (curfewRun.showing .fresh).respondAll .standard
          (hesitation ++ [.listen (.keyPressed .action)]) = curfewRun.showing ⟨1, some 1⟩ ∧
      curfewRun.Proceeds 8 2 1 1 5 := by
  have compiled : compileScript ⟨[], []⟩ curfew = .ok curfewRun.tree := rfl
  have carried : curfewRun.tree.item? 2 = some (.displayChoice ["Stay", "Go home"] (some 0)) := rfl
  have undecided : ∀ event ∈ heard hesitation, Menu.decides (some 0) event = false := by
    rintro event (_ | ⟨_, _ | ⟨_, ⟨⟩⟩⟩) <;> rfl
  have upward : Menu.descent (heard hesitation) % 2 = 1 := by decide
  obtain ⟨_, waits⟩ :=
    menu_enters_picked_branch compiled rfl rfl rfl carried (List.cons_ne_nil _ _) 8
  obtain ⟨selected, place, _, _, decides⟩ := waits hesitation undecided
  obtain rfl : selected = 1 := by
    have moved : (selected : Int) = Menu.descent (heard hesitation) % 2 := place
    omega
  obtain ⟨pick, branch, picks, _, settles, proceeds⟩ := decides (.keyPressed .action) rfl
  cases picks
  have listed : (curfewRun.tree.children 2)[1]? = some 5 := by decide +kernel
  cases listed.symm.trans proceeds.listed
  exact ⟨undecided, settles, proceeds⟩

end Run

end TileScript
