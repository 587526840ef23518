import TileScript.Proofs.Language.Levels

namespace TileScript

def Failure.isOwn : Failure → Bool
  | missingCommon _ | callTooDeep _ _ | calledReactionFailed _ | stateMismatch _ => false
  | _ => true

def Own {α : Type} (outcome : Except Failure α) : Prop :=
  ∀ failure, outcome = .error failure → failure.isOwn = true

theorem Own.ok {α : Type} (value : α) : Own (.ok value : Except Failure α) := by
  intro failure failed
  cases failed

theorem Own.map {α β : Type} {outcome : Except Failure α} {change : α → β} (own : Own outcome) :
    Own (outcome.map change) := by
  cases outcome with
  | error failure =>
    intro other failed
    cases failed
    exact own failure rfl
  | ok value => exact .ok _

theorem Value.asNumber_own (value : Value) : Own value.asNumber := by
  intro failure failed
  cases value <;> cases failed <;> rfl

theorem Comparison.holds_own (comparison : Comparison) (left right : Value) :
    Own (comparison.holds left right) := by
  intro failure failed
  unfold Comparison.holds at failed
  cases order : left.order? right <;> cases comparison <;> simp [order] at failed <;>
  · subst failed
    rfl

namespace Context

variable (context : Context) (world : World)

theorem resolve_own (operand : Operand) : Own (context.resolve world operand) := by
  intro failure failed
  cases operand with
  | constant value => cases failed
  | ofVariable known => cases failed
  | ofParameter index =>
    simp only [resolve] at failed
    split at failed <;> cases failed
    rfl

theorem resolveAll_own (operands : List Operand) :
    Own (context.resolveAll world operands) := by
  induction operands with
  | nil => exact .ok _
  | cons operand operands ih =>
    intro failure failed
    unfold resolveAll at failed
    split at failed
    · rename_i failure missing
      cases failed
      exact context.resolve_own world operand failure missing
    · split at failed
      · rename_i failure missing
        cases failed
        exact ih failure missing
      · cases failed

theorem resolveNumber_own (operand : Operand) :
    Own (context.resolveNumber world operand) := by
  intro failure failed
  unfold resolveNumber at failed
  split at failed
  · rename_i failure missing
    cases failed
    exact context.resolve_own world operand failure missing
  · exact Value.asNumber_own _ failure failed

theorem evaluate_own (condition : Condition) :
    Own (context.evaluate world condition) := by
  intro failure failed
  unfold evaluate at failed
  split at failed
  · rename_i failure missing
    cases failed
    exact context.resolve_own world condition.left failure missing
  · split at failed
    · rename_i failure missing
      cases failed
      exact context.resolve_own world condition.right failure missing
    · exact condition.comparison.holds_own _ _ failure failed

theorem referredId_own (kind : String) (reference : ObjectRef) :
    Own (context.referredId world kind reference) := by
  intro failure failed
  cases reference with
  | this | sender =>
    simp only [referredId] at failed
    split at failed <;> cases failed
    rfl
  | hero | object => cases failed

theorem referred_own (kind : String) (reference : ObjectRef) :
    Own (context.referred world kind reference) := by
  intro failure failed
  unfold referred at failed
  split at failed
  · rename_i failure missing
    cases failed
    exact context.referredId_own world kind reference failure missing
  · split at failed <;> cases failed
    rfl

end Context

namespace Plain

variable (context : Context) (stage : Stage)

theorem updated_own (operation : VariableOperation) (current operand : Value) :
    Own (updated operation current operand) := by
  intro failure failed
  unfold updated at failed
  split at failed
  · cases failed
  · split at failed
    · rename_i failure missing
      cases failed
      exact current.asNumber_own failure missing
    · split at failed
      · rename_i failure missing
        cases failed
        exact operand.asNumber_own failure missing
      · cases failed

theorem ifThen_own (condition : Condition) (hasElse : Bool) :
    Own (ifThen context condition hasElse stage) := by
  intro failure failed
  unfold ifThen at failed
  split at failed
  · rename_i failure missing
    cases failed
    exact context.evaluate_own stage.world condition failure missing
  · cases failed
  · cases failed

theorem whileLoop_own (condition : Condition) :
    Own (whileLoop context condition stage) := by
  intro failure failed
  unfold whileLoop at failed
  split at failed
  · rename_i failure missing
    cases failed
    exact context.evaluate_own stage.world condition failure missing
  · cases failed
  · cases failed

theorem setVariable_own (variableId : Nat) (operation : VariableOperation)
    (value : Operand) : Own (setVariable context variableId operation value stage) := by
  intro failure failed
  unfold setVariable at failed
  split at failed
  · rename_i failure missing
    cases failed
    exact context.resolve_own stage.world value failure missing
  · split at failed
    · rename_i failure missing
      cases failed
      exact updated_own operation _ _ failure missing
    · cases failed

theorem target_own (world : World) (kind : String) (receiver : Receiver) :
    Own (target context world kind receiver) := by
  cases receiver with
  | all | allOthers => exact .ok _
  | _ => exact (context.referred_own world kind _).map

theorem sendEvent_own (kind : String) (receiver : Receiver) (system : Bool) (event : Nat)
    (parameters : List Operand) :
    Own (sendEvent context kind receiver system event parameters stage) := by
  intro failure failed
  unfold sendEvent at failed
  split at failed
  · rename_i failure missing
    cases failed
    exact target_own context stage.world kind receiver failure missing
  · split at failed
    · rename_i failure missing
      cases failed
      exact context.resolveAll_own stage.world parameters failure missing
    · cases failed

theorem teleport_own (map : Nat) (position : Position) (orientation : Option Orientation) :
    Own (teleport map position orientation stage) := by
  intro failure failed
  unfold teleport at failed
  split at failed
  · dsimp only at failed
    split at failed <;> cases failed
    rfl
  · cases failed

theorem changeState_own (kind : String) (reference : ObjectRef) (state : Nat)
    (operation : StateOperation) :
    Own (changeState context kind reference state operation stage) := by
  intro failure failed
  unfold changeState at failed
  split at failed
  · rename_i failure missing
    cases failed
    exact context.referred_own stage.world kind reference failure missing
  · split at failed <;> cases failed
    rfl

theorem removeObject_own (kind : String) (reference : ObjectRef) :
    Own (removeObject context kind reference stage) := by
  intro failure failed
  unfold removeObject at failed
  split at failed
  · rename_i failure missing
    cases failed
    exact context.referred_own stage.world kind reference failure missing
  · cases failed

end Plain

namespace Walk

theorem proceeding_own (steps : List Orientation) (framesPerStep : Nat) (walk : Walk)
    (world : World) : Own (walk.tick false steps framesPerStep world) := by
  intro failure failed
  unfold tick at failed
  simp only [Bool.false_eq_true, ↓reduceIte] at failed
  split at failed
  · cases failed
  · split at failed
    · cases failed
    · split at failed <;> cases failed
      rfl

theorem tick_own (moving : Bool) (steps : List Orientation) (framesPerStep : Nat)
    (walk : Walk) (world : World) : Own (walk.tick moving steps framesPerStep world) := by
  cases moving with
  | false => exact proceeding_own steps framesPerStep walk world
  | true =>
    intro failure failed
    cases present : world.object? walk.object with
    | none =>
      simp only [tick, ↓reduceIte, present] at failed
      cases failed
      rfl
    | some object =>
      cases paused : object.isPaused with
      | true =>
        simp only [tick, ↓reduceIte, present, paused] at failed
        cases failed
      | false =>
        have proceeds : walk.tick true steps framesPerStep world =
            walk.tick false steps framesPerStep world := by
          simp only [tick, ↓reduceIte, present, paused, Bool.false_eq_true]
        rw [proceeds] at failed
        exact proceeding_own steps framesPerStep walk world failure failed

end Walk

namespace Standard

variable (context : Context)

theorem call_refused {world : World} {id : Nat} {parameters : List Operand} {failure : Failure}
    (refused : call context world id parameters = .error failure) :
    failure.isOwn = true ∨ failure = .callTooDeep id maxCallDepth ∨
      failure = .missingCommon id ∧ world.common? id = none := by
  unfold call at refused
  split at refused
  · cases refused
    exact .inr (.inl rfl)
  · split at refused
    · rename_i unknown
      cases refused
      exact .inr (.inr ⟨rfl, unknown⟩)
    · split at refused
      · rename_i failure missing
        cases refused
        exact .inl (context.resolveAll_own world parameters failure missing)
      · cases refused

theorem begin_refused {command : Command} {world : World} {failure : Failure}
    (refused : begin context command world = .error failure) :
    failure.isOwn = true ∨ ∃ id parameters, command = .callCommon id parameters ∧
      (failure = .callTooDeep id maxCallDepth ∨
        failure = .missingCommon id ∧ world.common? id = none) := by
  unfold begin at refused
  split at refused
  · split at refused
    · rename_i failure missing
      cases refused
      exact .inl (context.resolveNumber_own world _ failure missing)
    · cases refused
  · cases refused
  · cases refused
  · split at refused
    · rename_i failure missing
      cases refused
      exact .inl (context.referred_own world _ _ failure missing)
    · cases refused
  · rename_i id parameters
    split at refused
    · rename_i failure missing
      cases refused
      exact (call_refused context missing).imp_right fun call => ⟨id, parameters, rfl, call⟩
    · cases refused
  · cases refused

theorem performPlain_own {command : Command} {stage : Stage} {outcome : Plain.Outcome}
    (done : performPlain context command stage = some outcome) : Own outcome := by
  cases command with
  | choice =>
    cases done
    intro failure failed
    unfold Plain.choice at failed
    split at failed <;> cases failed
  | breakLoop =>
    cases done
    intro failure failed
    unfold Plain.breakLoop at failed
    split at failed <;> cases failed
  | elseBranch | stopReaction =>
    cases done
    exact .ok _
  | ifThen condition hasElse =>
    cases done
    exact Plain.ifThen_own context stage condition hasElse
  | whileLoop condition =>
    cases done
    exact Plain.whileLoop_own context stage condition
  | setVariable id operation value =>
    cases done
    exact Plain.setVariable_own context stage id operation value
  | sendEvent receiver system event parameters =>
    cases done
    exact Plain.sendEvent_own context stage _ receiver system event parameters
  | teleport map position orientation =>
    cases done
    exact Plain.teleport_own stage map position orientation
  | changeState object state operation =>
    cases done
    exact Plain.changeState_own context stage _ object state operation
  | removeObject object =>
    cases done
    exact Plain.removeObject_own context stage _ object
  | wait | showText | displayChoice | moveObject | callCommon | custom => cases done

theorem performLocal_refused {command : Command} {activity : Activity} {stage : Stage}
    {failure : Failure} (refused : performLocal context command activity stage = .error failure) :
    failure.isOwn = true ∨ failure = .stateMismatch command.kind := by
  unfold performLocal at refused
  split at refused
  · split at refused <;> cases refused
  · cases refused
  · cases refused
  · split at refused
    · rename_i failure missing
      cases refused
      exact .inl (Walk.tick_own _ _ _ _ _ failure missing)
    · cases refused
  · split at refused
    · cases refused
      exact .inr rfl
    · rename_i failure missing
      cases refused
      exact .inl (performPlain_own context missing failure rfl)
    · cases refused
  · cases refused
    exact .inr rfl

theorem performLocal_firstHand {command : Command} {activity : Activity} {stage : Stage}
    {failure : Failure} (refused : performLocal context command activity stage = .error failure)
    (id : Nat) : failure ≠ .calledReactionFailed id := by
  rintro rfl
  rcases performLocal_refused context refused with own | mismatch
  · cases own
  · cases mismatch

end Standard

namespace Language

theorem beginning_refused {context : Context} {command : Command} {world : World}
    {failure : Failure} (refused : beginning context command world = .error failure) :
    failure.isOwn = true ∨ ∃ id parameters, command = .callCommon id parameters ∧
      (failure = .callTooDeep id maxCallDepth ∨
        failure = .missingCommon id ∧ world.common? id = none) := by
  unfold beginning at refused
  split at refused
  · cases refused
  · exact Standard.begin_refused context refused

theorem beginning_firstHand {context : Context} {command : Command} {world : World}
    {failure : Failure} (refused : beginning context command world = .error failure) (id : Nat) :
    failure ≠ .calledReactionFailed id := by
  rintro rfl
  rcases beginning_refused refused with own | ⟨_, _, _, deep | ⟨missing, _⟩⟩
  · cases own
  · cases deep
  · cases missing

end Language

end TileScript
