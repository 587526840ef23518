import TileScript.Proofs.Content.Compiled
import TileScript.Proofs.Run.Failing
import TileScript.Proofs.World.Cast

namespace TileScript

namespace Run

variable {scripts : Reaction → Prop} {run called : Run Activity} {levels : Nat} {stage : Stage}

inductive Scripted (scripts : Reaction → Prop) : Run Activity → Prop where
  | intro (run : Run Activity) (plays : scripts run.reaction)
      (inner : ∀ called, run.state = some (.calling called) → Scripted scripts called) :
      Scripted scripts run

inductive Follows (scripts : Reaction → Prop) (stage : Stage) : Stage → Prop where
  | nothing : Follows scripts stage stage
  | deed {after : Stage} (reaction : Reaction) (plays : scripts reaction) (node : Nat)
      (command : Command) (carried : reaction.tree.item? node = some command)
      (deed : Deed stage command after) : Follows scripts stage after
  | fork (fork : Fork) (plays : scripts fork.reaction) :
      Follows scripts stage { stage with effects := stage.effects.fork fork }
  | report (diagnostic : Diagnostic) (known : ∀ id, diagnostic.failure ≠ .missingCommon id) :
      Follows scripts stage { stage with effects := stage.effects.report diagnostic }
  | missing (reaction : Reaction) (plays : scripts reaction) (node id : Nat)
      (parameters : List Operand)
      (carried : reaction.tree.item? node = some (.callCommon id parameters))
      (unknown : stage.world.common? id = none) (diagnostic : Diagnostic) :
      Follows scripts stage { stage with effects := stage.effects.report diagnostic }

theorem Follows.of_fail (run : Run Activity) (node : Nat) (command : Command) {failure : Failure}
    (stage : Stage) (known : ∀ id, failure ≠ .missingCommon id) :
    Follows scripts stage (run.fail node command failure stage).2 := by
  rcases stage_of_fail run node command failure stage with ⟨_, _, same⟩ | ⟨_, reported⟩
  · rw [same]
    exact .nothing
  · rw [reported]
    exact .report _ known

/-- A command that cannot begin lacks a shared reaction only if it calls one that is not there. -/
theorem missing_of_prepare {node : Nat} {command : Command} {id : Nat}
    (refused : run.prepare (.within .inert levels) node command stage =
      (.error (.missingCommon id), stage)) :
    ∃ parameters, command = .callCommon id parameters ∧ stage.world.common? id = none := by
  rw [Language.prepare_within] at refused
  have fails := congrArg Prod.fst refused
  cases begun : run.state with
  | some state =>
    rw [begun] at fails
    cases fails
  | none =>
    rw [begun] at fails
    rcases Language.beginning_refused fails with own | ⟨other, parameters, rfl, why⟩
    · cases own
    · rcases why with deep | ⟨same, unknown⟩
      · cases deep
      · cases same
        exact ⟨parameters, rfl, unknown⟩

namespace Scripted

theorem plays (scripted : Scripted scripts run) : scripts run.reaction := by
  cases scripted with
  | intro _ plays => exact plays

theorem inner (scripted : Scripted scripts run) (calling : run.state = some (.calling called)) :
    Scripted scripts called := by
  cases scripted with
  | intro _ _ inner => exact inner called calling

theorem of_idle (plays : scripts run.reaction) (idle : run.state = none) :
    Scripted scripts run := by
  refine .intro run plays (fun called calling => ?_)
  cases idle.symm.trans calling

theorem resume (scripted : Scripted scripts run) {kept : Activity}
    (inner : ∀ called, kept = .calling called → Scripted scripts called) :
    Scripted scripts { run with state := some kept } := by
  refine .intro _ scripted.plays (fun called calling => ?_)
  cases calling
  exact inner called rfl

theorem fail (scripted : Scripted scripts run) (node : Nat) (command : Command)
    (failure : Failure) (stage : Stage) :
    Scripted scripts (run.fail node command failure stage).1 := by
  cases failure <;> exact of_idle scripted.plays rfl

theorem follow (scripted : Scripted scripts run) (language : Language Activity) (cursor : Cursor)
    (flow : Flow) (stage : Stage) :
    Scripted scripts (run.follow language cursor flow stage).1 := by
  rcases run.follow_state language cursor flow stage with same | idle
  · rw [same]
    exact scripted
  · refine .of_idle ?_ idle
    obtain ⟨place, state, failed, followed⟩ := run.follow_continues language cursor flow stage
    rw [followed]
    exact scripted.plays

theorem listen (scripted : Scripted scripts run) (event : InputEvent) :
    Scripted scripts (run.listen (.within .inert levels) event).1 := by
  induction levels using Nat.strongRecOn generalizing run with
  | ind levels ih =>
    unfold Run.listen
    split
    · rename_i command activity named begun
      refine scripted.resume (fun called calling => ?_)
      rcases Intact.listen_calling calling with rfl | ⟨below, inner, level, rfl, rfl⟩
      · exact scripted.inner begun
      · exact ih below (by omega) (scripted.inner begun)
    · exact scripted

/-- The run that a call has ready is one of the scripts if the shared ones are. -/
theorem prepare (scripted : Scripted scripts run)
    (shared : ∀ id reaction, stage.world.common? id = some reaction → scripts reaction)
    {node : Nat} {command : Command}
    (ready : run.prepare (.within .inert levels) node command stage =
      (.ok (.calling called), stage)) : Scripted scripts called := by
  rw [Language.prepare_within] at ready
  have prepared := congrArg Prod.fst ready
  cases begun : run.state with
  | some state =>
    rw [begun] at prepared
    cases prepared
    exact scripted.inner begun
  | none =>
    rw [begun] at prepared
    simp only [Option.map_none, Option.getD_none] at prepared
    obtain ⟨id, parameters, rfl, calls⟩ := Language.beginning_calling prepared
    obtain ⟨_, reaction, _, found, _, rfl⟩ := Standard.call_ok calls
    exact .of_idle (shared id reaction found) rfl

theorem refused (scripted : Scripted scripts run) {node : Nat} {command : Command}
    {failure : Failure} (carried : run.tree.item? node = some command)
    (refused : run.prepare (.within .inert levels) node command stage = (.error failure, stage)) :
    Follows scripts stage (run.fail node command failure stage).2 := by
  cases failure with
  | missingCommon id =>
    obtain ⟨parameters, rfl, unknown⟩ := missing_of_prepare refused
    exact .missing run.reaction scripted.plays node id parameters carried unknown _
  | _ => exact .of_fail _ _ _ _ (by simp)

/-- A tick does what one of the scripts says, and goes on with them. -/
theorem tick (scripted : Scripted scripts run)
    (shared : ∀ id reaction, stage.world.common? id = some reaction → scripts reaction) :
    Scripted scripts (run.tick (.within .inert levels) stage).1 ∧
      Follows scripts stage (run.tick (.within .inert levels) stage).2 := by
  induction levels using Nat.strongRecOn generalizing run with
  | ind levels ih =>
    have way := tick_way levels run stage
    generalize run.tick (.within .inert levels) stage = ticked at way ⊢
    cases way with
    | ended located => exact ⟨scripted, .nothing⟩
    | root cursor located bare =>
      rw [(follow_within levels run cursor .next stage).1]
      exact ⟨scripted.follow _ _ _ _, .nothing⟩
    | fork cursor command located carried beside =>
      rw [(follow_within levels run cursor _ _).1]
      exact ⟨scripted.follow _ _ _ _, .fork _ scripted.plays⟩
    | refused cursor command failure located carried ready =>
      exact ⟨scripted.fail _ _ _ _, scripted.refused carried ready⟩
    | failed cursor command activity failure located carried ready done refused =>
      refine ⟨scripted.fail _ _ _ _, .of_fail _ _ _ _ (fun id same => ?_)⟩
      rw [same] at refused
      rcases Standard.performLocal_refused _ refused with own | mismatch
      · cases own
      · cases mismatch
    | done cursor command activity kept flow after located carried ready performed =>
      rw [(follow_within levels _ cursor flow after).1]
      constructor
      · refine (scripted.resume (fun called calling => ?_)).follow _ _ _ _
        exact absurd calling (Standard.performLocal_kept called performed)
      · exact .deed run.reaction scripted.plays cursor.node command carried
          (Standard.performLocal_deed performed)
    | host cursor kind index count located carried =>
      rw [(follow_within levels _ cursor .next stage).1]
      refine ⟨(scripted.resume (fun other calling => ?_)).follow _ _ _ _, .nothing⟩
      cases calling
    | calledFailed below cursor id parameters called level located carried ready failed =>
      obtain ⟨_, follows⟩ := ih below (by omega) (scripted.prepare shared ready)
      exact ⟨scripted.fail _ _ _ _, follows⟩
    | called below cursor id parameters called level located carried ready sound =>
      obtain ⟨kept, follows⟩ := ih below (by omega) (scripted.prepare shared ready)
      rw [(follow_within levels _ cursor _ _).1]
      refine ⟨(scripted.resume (fun other calling => ?_)).follow _ _ _ _, follows⟩
      cases calling
      exact kept

end Scripted

end Run

structure Stage.Scripted (scripts : Reaction → Prop) (content : Database) (map : MapDef)
    (stage : Stage) : Prop where
  setting : stage.world.setting = (some map.id, some map.extent, some heroId, some content)
  models : ∀ id object, stage.world.object? id = some object →
    ∀ reaction, object.model.Plays reaction → scripts reaction
  forks : ∀ fork ∈ stage.effects.forks, scripts fork.reaction
  scene : ∀ request, stage.effects.scene = some request →
    ∃ reaction, scripts reaction ∧ reaction.Sends request.map request.position

namespace Stage.Scripted

open World (SameCast)

variable {scripts : Reaction → Prop} {content : Database} {map : MapDef} {stage after : Stage}

theorem content_eq (scripted : stage.Scripted scripts content map) :
    stage.world.content = some content :=
  congrArg (fun setting => setting.2.2.2) scripted.setting

theorem shared (scripted : stage.Scripted scripts content map)
    (all : ∀ reaction, content.Plays reaction → scripts reaction) (id : Nat) (reaction : Reaction)
    (found : stage.world.common? id = some reaction) : scripts reaction := by
  rw [World.common?, scripted.content_eq, Option.bind_some] at found
  exact all reaction (.shared id found)

theorem declared (scripted : stage.Scripted scripts content map) {reaction : Reaction}
    {trigger : Trigger} {moving : Bool} (declares : stage.world.Declares reaction trigger moving) :
    scripts reaction := by
  obtain ⟨id, object, present, plays⟩ := declares.plays
  exact scripted.models id object present reaction plays

theorem recast (scripted : stage.Scripted scripts content map) {world : World}
    (same : SameCast stage.world world) :
    Stage.Scripted scripts content map { stage with world := world } where
  setting := same.setting.trans scripted.setting
  models id object present := by
    obtain ⟨earlier, found, model⟩ := same.models id object present
    rw [model]
    exact scripted.models id earlier found
  forks := scripted.forks
  scene := scripted.scene

theorem cleared (scripted : stage.Scripted scripts content map) :
    Stage.Scripted scripts content map ⟨stage.world, {}⟩ where
  setting := scripted.setting
  models := scripted.models
  forks _ asks := nomatch asks
  scene _ asks := nomatch asks

theorem deed (scripted : stage.Scripted scripts content map) {reaction : Reaction}
    (plays : scripts reaction) {node : Nat} {command : Command}
    (carried : reaction.tree.item? node = some command) (deed : Deed stage command after) :
    after.Scripted scripts content map where
  setting := deed.setting_eq.trans scripted.setting
  models := (scripted.recast deed.sameCast).models
  forks := by
    rw [deed.forks_eq]
    exact scripted.forks
  scene request asks := by
    rcases deed.scene_eq with same | ⟨there, position, orientation, rfl, asked⟩
    · exact scripted.scene request (same.symm.trans asks)
    · cases asked.symm.trans asks
      exact ⟨reaction, plays, node, orientation, carried⟩

/-- What one of the scripts says asks for nothing but the scripts. -/
theorem follows (scripted : stage.Scripted scripts content map)
    (follows : Run.Follows scripts stage after) : after.Scripted scripts content map := by
  cases follows with
  | nothing => exact scripted
  | deed reaction plays node command carried deed => exact scripted.deed plays carried deed
  | fork fork plays =>
    exact ⟨scripted.setting, scripted.models,
      List.forall_mem_append.mpr ⟨scripted.forks, by simpa using plays⟩, scripted.scene⟩
  | report | missing =>
    exact ⟨scripted.setting, scripted.models, scripted.forks, scripted.scene⟩

end Stage.Scripted

end TileScript
