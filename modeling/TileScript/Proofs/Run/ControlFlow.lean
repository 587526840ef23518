import TileScript.Proofs.Language.Deeds
import TileScript.Proofs.Language.Levels
import TileScript.Proofs.Run.Tick
import TileScript.Proofs.Script.WellPlaced

namespace TileScript

namespace Tree

/--
Where a run goes on when it is done with a node: the next sibling; failing that, a loop around it
begins again, a menu branch is left together with its menu, and any other parent is done as well.
-/
def after (tree : Tree Command) (node : Nat) : Option Nat :=
  match tree.nextSibling? node with
  | some sibling => some sibling
  | none =>
    match _hangs : tree.parent? node with
    | none => none
    | some parent =>
      if parent = 0 then none
      else
        match tree.item? parent with
        | some (.whileLoop _) => some parent
        | some .choice =>
          match _inMenu : tree.parent? parent with
          | none => none
          | some menu => tree.after menu
        | _ => tree.after parent
termination_by node
decreasing_by
  · exact Nat.lt_trans (parent?_lt _inMenu) (parent?_lt _hangs)
  · exact parent?_lt _hangs

def resume (tree : Tree Command) (node : Nat) : Option Nat :=
  match tree.item? node with
  | some (.whileLoop _) => some node
  | some .choice => (tree.parent? node).bind tree.after
  | _ => tree.after node

def landing (tree : Tree Command) : Option Cursor → Option Nat
  | none => none
  | some ⟨node, .enter⟩ => some node
  | some ⟨node, .back⟩ => tree.resume node

def into (tree : Tree Command) (node : Nat) : Option Nat :=
  (tree.firstChild? node).or (tree.after node)

theorem after_of_nextSibling? {tree : Tree Command} {node sibling : Nat}
    (next : tree.nextSibling? node = some sibling) : tree.after node = some sibling := by
  rw [after, next]

theorem after_of_last {tree : Tree Command} {node : Nat} (last : tree.nextSibling? node = none) :
    tree.after node = tree.landing (tree.rise? node) := by
  rw [after, last, rise?]
  cases hangs : tree.parent? node with
  | none => simp [landing]
  | some parent =>
    by_cases top : parent = 0
    · simp [top, landing]
    · simp only [top, ↓reduceIte, landing, Cursor.back, resume]
      cases tree.parent? parent <;> rfl

theorem landing_leave? (tree : Tree Command) (node : Nat) :
    tree.landing (tree.leave? node) = tree.after node := by
  cases next : tree.nextSibling? node with
  | none => rw [leave?_of_last next, after_of_last next]
  | some sibling =>
    rw [leave?_of_nextSibling? next, after_of_nextSibling? next]
    rfl

theorem landing_next (tree : Tree Command) (node : Nat) :
    tree.landing (tree.advance? (.enter node) 1) = tree.into node := by
  rw [advance?_one, into]
  cases first : tree.firstChild? node with
  | none => rw [step?_leaf first, landing_leave?, Option.none_or]
  | some child =>
    rw [step?_enter first]
    rfl

theorem landing_skip (tree : Tree Command) (node : Nat) :
    tree.landing (tree.advance? (.enter node) (tree.skipOffset node)) = tree.after node := by
  rw [advance?_skipOffset, landing_leave?]

theorem resume_menu {tree : Tree Command} {node : Nat}
    (isMenu : Draft.carries tree Command.isMenu node = true) :
    tree.resume node = tree.after node := by
  rw [Draft.carries] at isMenu
  rw [resume]
  split at isMenu
  · rename_i command carried
    rw [carried]
    cases command with
    | displayChoice choices cancel => rfl
    | _ => cases isMenu
  · cases isMenu

theorem landing_offsetToParentReturn {tree : Tree Command} {node : Nat} {cursor : Cursor}
    (placed : WellPlaced tree node) (carried : tree.item? node = some .choice)
    (leaves : tree.step? cursor = tree.leave? node) :
    tree.landing (tree.advance? cursor (tree.offsetToParentReturn node)) =
      (tree.parent? node).bind tree.after := by
  obtain ⟨menu, hangs, isMenu⟩ := placed.choiceInMenu carried
  have inner : menu ≠ 0 := by
    intro root
    rw [root, Draft.carries_root] at isMenu
    cases isMenu
  rw [advance?_offsetToParentReturn leaves, rise?_of_parent? hangs inner, hangs, Option.bind_some]
  exact resume_menu isMenu

end Tree

namespace Run

def moveTo (run : Run Activity) (target : Option Nat) : Run Activity :=
  { run with cursor := target.map .enter, state := none }

/-- However far a run moves and whatever it comes back to on the way, it ends at the landing. -/
theorem follow_advance {levels steps : Nat} {run : Run Activity} {cursor : Cursor} {stage : Stage}
    (placed : ∀ node, WellPlaced run.tree node) (positive : 0 < steps) :
    run.follow (.within .inert levels) cursor (.advance steps) stage =
      (run.moveTo (run.tree.landing (run.tree.advance? cursor steps)), stage) := by
  -- On what is left of the walk: a node that is come back to only ever asks for further steps.
  generalize bound : run.tree.remaining cursor = limit
  induction limit using Nat.strongRecOn generalizing run cursor steps with
  | ind limit ih =>
    obtain ⟨count, rfl⟩ : ∃ count, steps = count + 1 := ⟨steps - 1, by omega⟩
    rw [follow]
    split
    · rename_i jump
      rw [jump]
      rfl
    · rename_i next jump
      have shorter := Tree.remaining_advance?_lt jump
      obtain ⟨node, phase⟩ := next
      cases phase with
      | enter =>
        rw [jump]
        rfl
      | back =>
        obtain ⟨command, carried⟩ := Tree.item?_of_inside (Tree.inside_of_advance? jump)
        have onward : ∀ more, 0 < more →
            ({ run with cursor := some (.back node), state := none } : Run Activity).follow
              (.within .inert levels) (.back node) (.advance more) stage =
            (run.moveTo (run.tree.landing (run.tree.advance? (.back node) more)), stage) :=
          fun more positive => ih _ (bound ▸ shorter) placed positive rfl
        rw [jump]
        simp only [carried, Language.childrenDone_within]
        cases command with
        | whileLoop condition =>
          simp only [Standard.childrenDone, Tree.landing, Tree.resume, carried]
          rw [follow]
          rfl
        | choice =>
          simp only [Standard.childrenDone, Tree.landing, Tree.resume, carried]
          rw [← Tree.landing_offsetToParentReturn (placed node) carried (Tree.step?_back _ node)]
          exact onward _ (run.tree.offsetToParentReturn_pos node)
        | _ =>
          simp only [Standard.childrenDone, Tree.landing, Tree.resume, carried]
          rw [← Tree.landing_leave?, ← Tree.step?_back, ← Tree.advance?_one]
          exact onward 1 Nat.one_pos

def picked? (run : Run Activity) : Option Nat :=
  match run.state with
  | some (.menu menu) => menu.picked
  | _ => none

/--
Where the nesting of the commands sends a run that is done with the command at a node for now. A
conditional that does not hold goes into an else branch that follows it, a menu into the branch that
was picked, and a walk nobody waits for is passed.
-/
def destination (run : Run Activity) (world : World) (node : Nat) : Command → Option Nat
  | .ifThen condition _ =>
    match (run.context node).evaluate world condition, run.tree.nextSibling? node with
    | .ok false, some sibling =>
      if Draft.carries run.tree Command.isElse sibling then run.tree.into sibling
      else run.tree.after node
    | .ok false, none => run.tree.after node
    | _, _ => run.tree.into node
  | .elseBranch => run.tree.after node
  | .whileLoop condition =>
    match (run.context node).evaluate world condition with
    | .ok false => run.tree.after node
    | _ => run.tree.into node
  | .breakLoop => (Plain.enclosingLoop? run.tree node).bind run.tree.after
  | .stopReaction => none
  | .choice => (run.tree.firstChild? node).or ((run.tree.parent? node).bind run.tree.after)
  | .displayChoice _ _ =>
    run.picked?.bind (fun index => ((run.tree.children node)[index]?).or (run.tree.after node))
  | .moveObject _ _ waitEnd _ =>
    if waitEnd || run.moving then run.tree.into node else run.tree.after node
  | _ => run.tree.into node

def Leads (run : Run Activity) (node : Nat) (target : Option Nat) : Flow → Prop
  | .stay => True
  | .advance steps =>
    0 < steps ∧ run.tree.landing (run.tree.advance? (.enter node) steps) = target
  | .finish => target = none

theorem leads_next (run : Run Activity) (node : Nat) :
    run.Leads node (run.tree.into node) .next :=
  ⟨Nat.one_pos, run.tree.landing_next node⟩

theorem leads_skip (run : Run Activity) (node : Nat) :
    run.Leads node (run.tree.after node) (.advance (run.tree.skipOffset node)) :=
  ⟨run.tree.skipOffset_pos node, run.tree.landing_skip node⟩

theorem ifThen_leads {run : Run Activity} {node : Nat} {condition : Condition} {hasElse : Bool}
    {stage after : Stage} {flow : Flow} (placed : WellPlaced run.tree node)
    (carried : run.tree.item? node = some (.ifThen condition hasElse))
    (done : Plain.ifThen (run.context node) condition hasElse stage = .ok (flow, after)) :
    run.Leads node (run.destination stage.world node (.ifThen condition hasElse)) flow := by
  have flag := placed.knowsElse condition hasElse carried
  unfold Plain.ifThen at done
  rw [destination]
  split at done
  · cases done
  · rename_i holds
    cases done
    rw [holds]
    cases run.tree.nextSibling? node <;> exact run.leads_next node
  · rename_i fails
    cases done
    rw [fails]
    cases next : run.tree.nextSibling? node with
    | none =>
      rw [next] at flag
      simp only [flag, Option.any_none]
      exact run.leads_skip node
    | some sibling =>
      rw [next, Option.any_some] at flag
      cases isElse : Draft.carries run.tree Command.isElse sibling with
      | false =>
        simp only [flag, isElse]
        exact run.leads_skip node
      | true =>
        simp only [flag, isElse]
        refine ⟨Nat.succ_pos _, ?_⟩
        change run.tree.landing (run.tree.advance? _ (run.tree.skipOffset node + 1)) = _
        rw [Tree.advance?_add, Tree.advance?_skipOffset, Tree.leave?_of_nextSibling? next]
        exact run.tree.landing_next sibling

theorem whileLoop_leads {run : Run Activity} {node : Nat} {condition : Condition}
    {stage after : Stage} {flow : Flow}
    (done : Plain.whileLoop (run.context node) condition stage = .ok (flow, after)) :
    run.Leads node (run.destination stage.world node (.whileLoop condition)) flow := by
  unfold Plain.whileLoop at done
  rw [destination]
  split at done
  · cases done
  · rename_i holds
    cases done
    rw [holds]
    exact run.leads_next node
  · rename_i fails
    cases done
    rw [fails]
    exact run.leads_skip node

theorem breakLoop_leads {run : Run Activity} {node : Nat} {stage after : Stage} {flow : Flow}
    (placed : WellPlaced run.tree node) (carried : run.tree.item? node = some .breakLoop)
    (done : Plain.breakLoop (run.context node) stage = .ok (flow, after)) :
    run.Leads node (run.destination stage.world node .breakLoop) flow := by
  obtain ⟨outer, member, isLoop⟩ := placed.breakInLoop carried
  have found : (Plain.enclosingLoop? run.tree node).isSome = true := by
    refine List.find?_isSome.mpr ⟨outer, member, ?_⟩
    rw [Draft.carries] at isLoop
    split at isLoop
    · rename_i command here
      simpa [here] using isLoop
    · cases isLoop
  obtain ⟨loop, innermost⟩ := Option.isSome_iff_exists.mp found
  have above := List.mem_of_find?_eq_some innermost
  obtain ⟨steps, exit⟩ := Tree.offsetToExit?_isSome above
  have atLoop : (Plain.enclosingLoop? (run.context node).tree (run.context node).node).bind
      ((run.context node).tree.offsetToExit? (run.context node).node) = some steps := by
    change (Plain.enclosingLoop? run.tree node).bind (run.tree.offsetToExit? node) = _
    rw [innermost, Option.bind_some, exit]
  rw [Plain.breakLoop, atLoop] at done
  cases done
  rw [destination, innermost, Option.bind_some]
  refine ⟨Tree.offsetToExit?_pos exit, ?_⟩
  rw [Tree.advance?_offsetToExit? exit, Tree.landing_leave?]

theorem choice_leads {run : Run Activity} {node : Nat} {stage after : Stage} {flow : Flow}
    (placed : WellPlaced run.tree node) (carried : run.tree.item? node = some .choice)
    (done : Plain.choice (run.context node) stage = .ok (flow, after)) :
    run.Leads node (run.destination stage.world node .choice) flow := by
  unfold Plain.choice at done
  rw [destination]
  cases first : run.tree.firstChild? node with
  | none =>
    have leaf : (run.context node).tree.hasChildren (run.context node).node = false := by
      change run.tree.hasChildren node = false
      simp [Tree.hasChildren, first]
    rw [leaf] at done
    cases done
    rw [Option.none_or]
    exact ⟨run.tree.offsetToParentReturn_pos node,
      Tree.landing_offsetToParentReturn placed carried (Tree.step?_leaf first)⟩
  | some child =>
    have parent : (run.context node).tree.hasChildren (run.context node).node = true := by
      change run.tree.hasChildren node = true
      simp [Tree.hasChildren, first]
    rw [parent] at done
    cases done
    have onward := run.leads_next node
    rw [Tree.into, first] at onward
    exact onward

theorem menu_leads {run : Run Activity} {node : Nat} {menu : Menu} {choices : List String}
    {cancel : Option Nat} {world : World} (current : run.picked? = menu.picked) :
    run.Leads node (run.destination world node (.displayChoice choices cancel))
      (menu.flow (run.context node)) := by
  rw [destination, current, Menu.flow]
  cases menu.picked with
  | none => trivial
  | some index =>
    rw [Option.bind_some]
    change run.Leads node _
      (.advance ((run.tree.offsetToChild? node index).getD (run.tree.skipOffset node)))
    cases offset : run.tree.offsetToChild? node index with
    | none =>
      have beyond : (run.tree.children node)[index]? = none := by
        refine List.getElem?_eq_none (Nat.le_of_not_lt fun inside => ?_)
        rw [Tree.offsetToChild?_eq_some_iff.mpr ⟨inside, rfl⟩] at offset
        cases offset
      rw [beyond, Option.none_or]
      exact run.leads_skip node
    | some steps =>
      obtain ⟨child, located, jump⟩ := Tree.advance?_offsetToChild? offset
      rw [located]
      obtain ⟨_, rfl⟩ := Tree.offsetToChild?_eq_some_iff.mp offset
      rw [Option.getD_some]
      exact ⟨by omega, by rw [jump]; rfl⟩

theorem performPlain_leads {run : Run Activity} {node : Nat} {command : Command}
    {stage after : Stage} {flow : Flow} (placed : WellPlaced run.tree node)
    (carried : run.tree.item? node = some command)
    (done : Standard.performPlain (run.context node) command stage = some (.ok (flow, after))) :
    run.Leads node (run.destination stage.world node command) flow := by
  cases command with
  | choice => exact choice_leads placed carried (Option.some.inj done)
  | ifThen condition hasElse => exact ifThen_leads placed carried (Option.some.inj done)
  | elseBranch =>
    cases done
    exact run.leads_skip node
  | whileLoop condition => exact whileLoop_leads (Option.some.inj done)
  | breakLoop => exact breakLoop_leads placed carried (Option.some.inj done)
  | stopReaction =>
    cases done
    exact rfl
  | setVariable id operation value =>
    rw [(Plain.setVariable_deed (Option.some.inj done)).1]
    exact run.leads_next node
  | sendEvent receiver system event parameters =>
    rw [(Plain.sendEvent_deed (Option.some.inj done)).1]
    exact run.leads_next node
  | teleport map position orientation =>
    rw [(Plain.teleport_deed (Option.some.inj done)).1]
    exact run.leads_next node
  | changeState object state operation =>
    rw [(Plain.changeState_deed (Option.some.inj done)).1]
    exact run.leads_next node
  | removeObject object =>
    rw [(Plain.removeObject_deed (Option.some.inj done)).1]
    exact run.leads_next node
  | _ => cases done

theorem leads_next_or_stay {run : Run Activity} {node : Nat} {flow : Flow}
    (either : flow = .next ∨ flow = .stay) : run.Leads node (run.tree.into node) flow := by
  rcases either with rfl | rfl
  · exact run.leads_next node
  · trivial

theorem performLocal_leads {run : Run Activity} {node : Nat} {command : Command}
    {activity kept : Activity} {stage after : Stage} {flow : Flow}
    (placed : WellPlaced run.tree node) (carried : run.tree.item? node = some command)
    (inPlace : command.runsBeside = true → run.moving = true)
    (current : ∀ menu, activity = .menu menu → run.picked? = menu.picked)
    (done : Standard.performLocal (run.context node) command activity stage =
      .ok (flow, kept, after)) :
    run.Leads node (run.destination stage.world node command) flow := by
  unfold Standard.performLocal at done
  split at done
  · refine leads_next_or_stay ?_
    split at done <;> cases done <;> simp
  · cases done
    exact leads_next_or_stay (Flow.next_or_stay _)
  · cases done
    exact menu_leads (current _ rfl)
  · rename_i object steps waitEnd framesPerStep walk
    have target : run.destination stage.world node
        (.moveObject object steps waitEnd framesPerStep) = run.tree.into node := by
      cases waitEnd with
      | true => rfl
      | false => simp [destination, inPlace rfl]
    rw [target]
    split at done
    · cases done
    · rename_i walked
      cases done
      exact leads_next_or_stay (Walk.tick_ok walked).1
  · split at done
    · cases done
    · cases done
    · rename_i performed
      cases done
      exact performPlain_leads placed carried performed
  · cases done

theorem perform_leads {levels : Nat} {run : Run Activity} {node : Nat} {command : Command}
    {activity kept : Activity} {stage after : Stage} {flow : Flow}
    (placed : WellPlaced run.tree node) (carried : run.tree.item? node = some command)
    (inPlace : command.runsBeside = true → run.moving = true)
    (current : ∀ menu, activity = .menu menu → run.picked? = menu.picked)
    (done : (Language.within .inert levels).perform (run.context node) command activity stage =
      (.ok (flow, kept), after)) :
    run.Leads node (run.destination stage.world node command) flow := by
  rcases Language.perform_cases levels (run.context node) command activity stage with
    ⟨kind, index, count, rfl, rfl⟩ | ⟨below, id, parameters, called, rfl, rfl, rfl⟩ | here
  · cases levels <;> cases done <;> exact run.leads_next node
  · rw [Language.perform_call] at done
    dsimp only at done
    split at done
    · cases done
    · cases done
      exact leads_next_or_stay (Flow.next_or_stay _)
  · rw [here] at done
    split at done
    · cases done
    · rename_i performed
      cases done
      exact performLocal_leads placed carried inPlace current performed

theorem picked?_of_prepare {levels : Nat} {run : Run Activity} {node : Nat} {command : Command}
    {stage after : Stage} {menu : Menu}
    (ready : run.prepare (.within .inert levels) node command stage = (.ok (.menu menu), after)) :
    run.picked? = menu.picked := by
  rw [Language.prepare_within] at ready
  have activity := congrArg Prod.fst ready
  rw [picked?]
  cases resumed : run.state with
  | some state =>
    rw [resumed] at activity
    cases activity
    rfl
  | none =>
    rw [resumed] at activity
    rw [Language.menu_of_beginning activity]
    rfl

theorem follow_leads (levels : Nat) {node : Nat} (run : Run Activity) {target : Option Nat}
    {flow : Flow} (stage : Stage) (placed : ∀ node, WellPlaced run.tree node)
    (leads : run.Leads node target flow) :
    (run.follow (.within .inert levels) (.enter node) flow stage).1 = run ∨
      (run.follow (.within .inert levels) (.enter node) flow stage).1 = run.moveTo target := by
  cases flow with
  | stay =>
    rw [follow]
    exact .inl rfl
  | advance steps =>
    obtain ⟨positive, lands⟩ := leads
    rw [follow_advance placed positive, lands]
    exact .inr rfl
  | finish =>
    cases leads
    rw [follow]
    exact .inr rfl

theorem destination_of_runsBeside {run : Run Activity} {world : World} {node : Nat}
    {command : Command} (beside : command.runsBeside = true) (still : run.moving = false) :
    run.destination world node command = run.tree.after node := by
  cases command with
  | moveObject object steps waitEnd framesPerStep =>
    cases waitEnd with
    | true => cases beside
    | false => simp [destination, still]
  | _ => cases beside

/--
A tick of a run over a compiled script that neither waits nor fails leaves the cursor exactly where
the nesting of the commands says.
-/
theorem tick_reaches_destination {scope : Scope} {entries : List ScriptEntry} {levels node : Nat}
    {run : Run Activity} {command : Command} {stage : Stage}
    (compiled : compileScript scope entries = .ok run.tree)
    (cursor : run.cursor = some (.enter node)) (carried : run.tree.item? node = some command)
    (blocking : run.isParallel = false)
    (steady : (run.tick (.within .inert levels) stage).1.failed = false)
    (moved : (run.tick (.within .inert levels) stage).1.status ≠ .awaiting) :
    (run.tick (.within .inert levels) stage).1.cursor =
      (run.destination stage.world node command).map .enter := by
  have placed := wellPlaced_of_compileScript compiled
  cases inPlace : (command.runsBeside && !run.isParallel && !run.moving) with
  | true =>
    have leads := run.leads_skip node
    have beside : command.runsBeside = true ∧ run.moving = false := by
      simpa [blocking] using inPlace
    have forked := tick_beside stage cursor carried
      ((Language.runsBeside_within levels command).symm ▸ inPlace)
    rw [forked, destination_of_runsBeside beside.1 beside.2, ← leads.2]
    exact congrArg (fun ticked => ticked.1.cursor) (follow_advance placed leads.1)
  | false =>
    have together : command.runsBeside = true → run.moving = true := by
      intro beside
      simpa [beside, blocking] using inPlace
    have ways := tick_inPlace stage cursor carried
      ((Language.runsBeside_within levels command).symm ▸ inPlace)
    rcases ways with ⟨failure, begun, _, ticked⟩ | ⟨_, begun, failure, performed, _, _, ticked⟩ |
      ⟨state, begun, flow, kept, performed, ready, done, ticked⟩
    · rw [ticked, failed_of_fail] at steady
      cases steady
    · rw [ticked, failed_of_fail] at steady
      cases steady
    · have same : begun = stage := by
        rw [Language.prepare_within] at ready
        exact (congrArg Prod.snd ready).symm
      subst same
      have current : ∀ menu, state = .menu menu → run.picked? = menu.picked := by
        rintro menu rfl
        exact picked?_of_prepare ready
      let waiting : Run Activity := { run with state := some kept }
      have leads : waiting.Leads node (run.destination begun.world node command) flow :=
        perform_leads (placed node) carried together current done
      have arrived := follow_leads levels waiting performed placed leads
      rw [ticked] at moved ⊢
      rcases arrived with waits | goes
      · rw [waits] at moved
        exact absurd (by simp [status, waiting, cursor]) moved
      · rw [goes]
        rfl

def detour : List ScriptEntry :=
  [⟨0, .whileLoop ⟨.constant (.bool true), .equal, .constant (.bool true)⟩⟩,
    ⟨1, .ifThen ⟨.constant (.bool true), .equal, .constant (.bool false)⟩ false⟩,
    ⟨2, .stopReaction⟩, ⟨1, .elseBranch⟩, ⟨2, .breakLoop⟩, ⟨0, .stopReaction⟩]

def detourAt (node : Nat) : Run Activity where
  reaction := ⟨.loose 0, "detour", ((compileScript ⟨[], []⟩ detour).toOption).getD .empty, false⟩
  trigger := {}
  cursor := some (.enter node)

theorem detour_leaves_loop :
    compileScript ⟨[], []⟩ detour = .ok (detourAt 5).tree ∧
      ((detourAt 5).tick .standard ⟨{}, {}⟩).1.cursor = some (.enter 6) := by
  have compiled : compileScript ⟨[], []⟩ detour = .ok (detourAt 5).tree := rfl
  have steady : ((detourAt 5).tick (.within .inert 8) ⟨{}, {}⟩).1.failed = false := by
    decide +kernel
  have moved : ((detourAt 5).tick (.within .inert 8) ⟨{}, {}⟩).1.status ≠ .awaiting := by
    decide +kernel
  have target : (detourAt 5).destination {} 5 .breakLoop = some 6 := by decide +kernel
  have reached := tick_reaches_destination compiled rfl rfl rfl steady moved
  exact ⟨compiled, reached.trans (congrArg (Option.map Cursor.enter) target)⟩

end Run

end TileScript
