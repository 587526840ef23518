import TileScript.Proofs.Content.Compiled
import TileScript.Proofs.Run.Scripted
import TileScript.Proofs.World.Cast

namespace TileScript

structure Menu.Within (count : Nat) (menu : Menu) : Prop where
  selected : 0 < count → menu.selected < count
  picked : ∀ index, menu.picked = some index → index < count

theorem Menu.within_fresh (count : Nat) : Menu.fresh.Within count where
  selected positive := positive
  picked _ picked := nomatch picked

theorem Menu.Within.listen {count : Nat} {menu : Menu} (within : menu.Within count)
    {cancelIndex : Option Nat} (cancels : ∀ index, cancelIndex = some index → index < count)
    (event : InputEvent) : (menu.listen count cancelIndex event).Within count := by
  unfold Menu.listen
  split
  · exact within
  · rename_i open'
    have positive : 0 < count := by omega
    split
    · exact ⟨fun _ => Nat.mod_lt _ positive, within.picked⟩
    · exact ⟨fun _ => Nat.mod_lt _ positive, within.picked⟩
    · refine ⟨within.selected, ?_⟩
      rintro index ⟨⟩
      exact within.selected positive
    · split
      · rename_i index
        refine ⟨within.selected, ?_⟩
        rintro other ⟨⟩
        exact cancels index rfl
      · exact within
    · exact within

namespace Run

inductive Vetted (scope : Scope) : Run Activity → Prop where
  | intro (run : Run Activity) (compiled : run.reaction.Compiled scope)
      (menus : ∀ menu, run.state = some (.menu menu) → ∀ cursor choices cancel,
        run.cursor = some cursor →
        run.tree.item? cursor.node = some (.displayChoice choices cancel) →
        menu.Within choices.length)
      (inner : ∀ called, run.state = some (.calling called) → Vetted scope called) :
      Vetted scope run

namespace Vetted

variable {scope : Scope} {run called : Run Activity} {levels : Nat}

theorem compiled (vetted : Vetted scope run) : run.reaction.Compiled scope := by
  cases vetted with
  | intro _ compiled => exact compiled

theorem scripted (vetted : Vetted scope run) : Scripted (Reaction.Compiled scope) run := by
  induction vetted with
  | intro run compiled menus inner ih => exact .intro run compiled ih

theorem checked (vetted : Vetted scope run) (node : Nat) : Checked scope run.tree node := by
  obtain ⟨entries, script⟩ := vetted.compiled
  exact checked_of_compileScript script node

theorem menus (vetted : Vetted scope run) {menu : Menu} (shown : run.state = some (.menu menu))
    {cursor : Cursor} {choices : List String} {cancel : Option Nat}
    (located : run.cursor = some cursor)
    (carried : run.tree.item? cursor.node = some (.displayChoice choices cancel)) :
    menu.Within choices.length := by
  cases vetted with
  | intro _ _ menus => exact menus menu shown cursor choices cancel located carried

theorem inner (vetted : Vetted scope run) (calling : run.state = some (.calling called)) :
    Vetted scope called := by
  cases vetted with
  | intro _ _ _ inner => exact inner called calling

theorem of_idle (compiled : run.reaction.Compiled scope) (idle : run.state = none) :
    Vetted scope run := by
  refine .intro run compiled ?_ ?_
  · intro menu shown
    cases idle.symm.trans shown
  · intro called calling
    cases idle.symm.trans calling

/-- A run stays vetted with what its command keeps, if that is an open menu or a called run as it
should be. -/
theorem resume (vetted : Vetted scope run) {kept : Activity}
    (menus : ∀ menu, kept = .menu menu → ∀ cursor choices cancel, run.cursor = some cursor →
      run.tree.item? cursor.node = some (.displayChoice choices cancel) →
      menu.Within choices.length)
    (inner : ∀ called, kept = .calling called → Vetted scope called) :
    Vetted scope { run with state := some kept } := by
  refine .intro _ vetted.compiled ?_ ?_
  · rintro menu ⟨⟩
    exact menus menu rfl
  · rintro called ⟨⟩
    exact inner called rfl

theorem fail (vetted : Vetted scope run) (node : Nat) (command : Command) (failure : Failure)
    (stage : Stage) : Vetted scope (run.fail node command failure stage).1 := by
  cases failure <;> exact of_idle vetted.compiled rfl

end Vetted

theorem Vetted.follow {scope : Scope} {run : Run Activity} (vetted : Vetted scope run)
    (language : Language Activity) (cursor : Cursor) (flow : Flow) (stage : Stage) :
    Vetted scope (run.follow language cursor flow stage).1 := by
  rcases run.follow_state language cursor flow stage with same | idle
  · rw [same]
    exact vetted
  · refine .of_idle ?_ idle
    obtain ⟨place, state, failed, followed⟩ := run.follow_continues language cursor flow stage
    rw [followed]
    exact vetted.compiled

end Run

structure Stage.Vetted (scope : Scope) (content : Database) (map : MapDef) (stage : Stage) : Prop
    extends Stage.Scripted (Reaction.Compiled scope) content map stage where
  known : ∀ diagnostic ∈ stage.effects.diagnostics, ∀ id, diagnostic.failure ≠ .missingCommon id

namespace Stage.Vetted

open World (SameCast)

variable {scope : Scope} {content : Database} {map : MapDef} {stage : Stage}

theorem recast (vetted : stage.Vetted scope content map) {world : World}
    (same : SameCast stage.world world) :
    Stage.Vetted scope content map { stage with world := world } where
  toScripted := vetted.toScripted.recast same
  known := vetted.known

theorem cleared (vetted : stage.Vetted scope content map) :
    Stage.Vetted scope content map ⟨stage.world, {}⟩ where
  toScripted := vetted.toScripted.cleared
  known _ recorded := nomatch recorded

theorem asked (vetted : stage.Vetted scope content map) {request : SceneRequest}
    (asks : stage.effects.scene = some request) : request.map ∈ scope.maps := by
  obtain ⟨reaction, compiled, sends⟩ := vetted.scene request asks
  exact compiled.of_sends sends

/-- Compiled scripts find the shared reactions that they call. -/
theorem follows (vetted : stage.Vetted scope content map) (compiled : content.Compiled scope)
    {after : Stage} (follows : Run.Follows (Reaction.Compiled scope) stage after) :
    after.Vetted scope content map where
  toScripted := vetted.toScripted.follows follows
  known := by
    cases follows with
    | nothing | fork => exact vetted.known
    | deed reaction script node command carried deed =>
      rw [deed.diagnostics_eq]
      exact vetted.known
    | report diagnostic known =>
      exact List.forall_mem_append.mpr ⟨vetted.known, by simpa using known⟩
    | missing reaction script node id parameters carried unknown =>
      obtain ⟨entries, script⟩ := script
      have called := (checked_of_compileScript script node).commonKnown id parameters carried
      obtain ⟨reaction, found⟩ := compiled.commons id called
      rw [World.common?, vetted.content_eq, Option.bind_some, found] at unknown
      cases unknown

end Stage.Vetted

theorem Standard.menu_of_performLocal {context : Context} {command : Command}
    {stage after : Stage} {flow : Flow} {activity : Activity} {menu : Menu}
    (done : performLocal context command activity stage = .ok (flow, .menu menu, after)) :
    activity = .menu menu := by
  unfold performLocal at done
  split at done
  · split at done <;> cases done
  · cases done
  · cases done
    rfl
  · split at done <;> cases done
  · split at done <;> cases done
  · cases done

namespace Run

variable {scope : Scope} {content : Database} {map : MapDef} {run called : Run Activity}
  {levels : Nat} {stage : Stage}

/-- What a vetted run has ready for its command is as it should be. -/
theorem Vetted.prepare (vetted : Vetted scope run) (sound : stage.Vetted scope content map)
    (compiled : content.Compiled scope) {cursor : Cursor} {command : Command}
    (located : run.cursor = some cursor) (carried : run.tree.item? cursor.node = some command)
    {activity : Activity}
    (ready : run.prepare (.within .inert levels) cursor.node command stage =
      (.ok activity, stage)) :
    (∀ menu choices cancel, activity = .menu menu → command = .displayChoice choices cancel →
      menu.Within choices.length) ∧
    ∀ called, activity = .calling called → Vetted scope called := by
  rw [Language.prepare_within] at ready
  have activity' := congrArg Prod.fst ready
  cases begun : run.state with
  | some state =>
    rw [begun] at activity'
    cases activity'
    constructor
    · rintro menu choices cancel rfl rfl
      exact vetted.menus begun located carried
    · rintro called rfl
      exact vetted.inner begun
  | none =>
    rw [begun] at activity'
    simp only [Option.map_none, Option.getD_none] at activity'
    constructor
    · rintro menu choices cancel rfl rfl
      rw [Language.menu_of_beginning activity']
      exact Menu.within_fresh _
    · rintro called rfl
      obtain ⟨id, parameters, rfl, calls⟩ := Language.beginning_calling activity'
      obtain ⟨_, reaction, _, found, _, rfl⟩ := Standard.call_ok calls
      exact .of_idle (sound.shared (fun _ => compiled.of_plays) id reaction found) rfl

theorem Vetted.ticked (compiled : content.Compiled scope) (vetted : Vetted scope run)
    (sound : stage.Vetted scope content map) :
    Vetted scope (run.tick (.within .inert levels) stage).1 := by
  induction levels using Nat.strongRecOn generalizing run with
  | ind levels ih =>
    have way := tick_way levels run stage
    generalize run.tick (.within .inert levels) stage = ticked at way ⊢
    cases way with
    | ended located => exact vetted
    | root | fork => exact vetted.follow _ _ _ _
    | refused | failed | calledFailed => exact vetted.fail _ _ _ _
    | done cursor command activity kept flow after located carried ready performed =>
      obtain ⟨menus, _⟩ := vetted.prepare sound compiled located carried ready
      refine (vetted.resume ?_ ?_).follow _ _ _ _
      · rintro menu rfl cursor' choices cancel located' carried'
        cases located.symm.trans located'
        cases carried.symm.trans carried'
        exact menus menu choices cancel (Standard.menu_of_performLocal performed) rfl
      · rintro called rfl
        exact absurd rfl (Standard.performLocal_kept called performed)
    | host cursor kind index count located carried =>
      refine (vetted.resume ?_ ?_).follow _ _ _ _
      · rintro menu ⟨⟩
      · rintro called ⟨⟩
    | called below cursor id parameters called level located carried ready going =>
      obtain ⟨_, inner⟩ := vetted.prepare sound compiled located carried ready
      have kept := ih below (by omega) (inner called rfl)
      refine (vetted.resume ?_ ?_).follow _ _ _ _
      · rintro menu ⟨⟩
      · rintro other ⟨⟩
        exact kept

theorem Vetted.tick (compiled : content.Compiled scope) (vetted : Vetted scope run)
    (sound : stage.Vetted scope content map) :
    Vetted scope (run.tick (.within .inert levels) stage).1 ∧
      (run.tick (.within .inert levels) stage).2.Vetted scope content map := by
  have shared := sound.shared (fun _ => compiled.of_plays)
  exact ⟨vetted.ticked compiled sound, sound.follows compiled (vetted.scripted.tick shared).2⟩

theorem listen_menu {command : Command} {event : InputEvent} {activity : Activity} {menu : Menu}
    (heard : ((Language.within .inert levels).listen command event activity).1 = .menu menu) :
    activity = .menu menu ∨ ∃ choices cancel before, command = .displayChoice choices cancel ∧
      activity = .menu before ∧ menu = before.listen choices.length cancel event := by
  cases levels <;> cases command <;> cases activity <;> cases heard
  case zero.displayChoice.menu.refl choices cancel before =>
    exact .inr ⟨choices, cancel, before, rfl, rfl, rfl⟩
  case succ.displayChoice.menu.refl choices cancel before =>
    exact .inr ⟨choices, cancel, before, rfl, rfl, rfl⟩
  all_goals exact .inl rfl

theorem Vetted.listen (vetted : Vetted scope run) (event : InputEvent) :
    Vetted scope (run.listen (.within .inert levels) event).1 := by
  induction levels using Nat.strongRecOn generalizing run with
  | ind levels ih =>
    unfold Run.listen
    split
    · rename_i command activity named begun
      apply vetted.resume
      · intro menu shown cursor choices cancel located carried
        rcases listen_menu shown with rfl | ⟨choices', cancel', before, rfl, rfl, rfl⟩
        · exact vetted.menus begun located carried
        · have here : run.command? = some (.displayChoice choices cancel) := by
            simp [command?, node?, located, carried]
          cases here.symm.trans named
          refine (vetted.menus begun located carried).listen ?_ event
          rintro index rfl
          exact (vetted.checked cursor.node).cancelInRange choices index carried
      · intro called calling
        rcases Intact.listen_calling calling with rfl | ⟨below, inner, level, rfl, rfl⟩
        · exact vetted.inner begun
        · exact ih below (by omega) (vetted.inner begun)
    · exact vetted

inductive Performs (stage : Stage) : Nat → Run Activity → Context → Command → Activity → Prop where
  | here (levels : Nat) (run : Run Activity) (cursor : Cursor) (command : Command)
      (activity : Activity) (located : run.cursor = some cursor)
      (carried : run.tree.item? cursor.node = some command)
      (inPlace : (command.runsBeside && !run.isParallel && !run.moving) = false)
      (ready : run.prepare (.within .inert levels) cursor.node command stage =
        (.ok activity, stage)) :
      Performs stage levels run (run.context cursor.node) command activity
  | called (levels : Nat) (run called : Run Activity) (cursor : Cursor) (id : Nat)
      (parameters : List Operand) {context : Context} {command : Command} {activity : Activity}
      (located : run.cursor = some cursor)
      (carried : run.tree.item? cursor.node = some (.callCommon id parameters))
      (ready : run.prepare (.within .inert (levels + 1)) cursor.node (.callCommon id parameters)
        stage = (.ok (.calling called), stage))
      (inner : Performs stage levels called context command activity) :
      Performs stage (levels + 1) run context command activity

/-- A break finds the loop it leaves, and a menu the branch of the picked entry. -/
structure Founded (context : Context) (command : Command) (activity : Activity) : Prop where
  breaks : command = .breakLoop → ∃ steps,
    (Plain.enclosingLoop? context.tree context.node).bind
      (context.tree.offsetToExit? context.node) = some steps
  picks : ∀ choices cancel menu index, command = .displayChoice choices cancel →
    activity = .menu menu → menu.picked = some index →
    ∃ steps, context.tree.offsetToChild? context.node index = some steps

theorem Performs.founded {context : Context} {command : Command} {activity : Activity}
    (performs : Performs stage levels run context command activity)
    (compiled : content.Compiled scope) (vetted : Vetted scope run)
    (sound : stage.Vetted scope content map) : Founded context command activity := by
  induction performs with
  | here levels run cursor command activity located carried inPlace ready =>
    have checked := vetted.checked cursor.node
    obtain ⟨menus, _⟩ := vetted.prepare sound compiled located carried ready
    constructor
    · rintro rfl
      exact checked.leavesLoop carried
    · rintro choices cancel menu index rfl rfl picked
      have within := (menus menu choices cancel rfl rfl).picked index picked
      rw [← checked.fullMenu choices cancel carried] at within
      exact ⟨_, Tree.offsetToChild?_eq_some_iff.mpr ⟨within, rfl⟩⟩
  | called levels run called cursor id parameters located carried ready inner ih =>
    exact ih ((vetted.prepare sound compiled located carried ready).2 called rfl)

end Run

end TileScript
