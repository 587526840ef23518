import TileScript.Language.Standard

namespace TileScript

def StateOperation.on (operation : StateOperation) (state : Nat) (object : MapObject) : MapObject :=
  match operation with
  | .replace => { object with states := [state] }
  | .add => object.addState state
  | .remove => object.removeState state

inductive Deed (stage : Stage) : Command → Stage → Prop where
  | nothing (command : Command) : Deed stage command stage
  | assign (id : Nat) (operation : VariableOperation) (operand : Operand) (value : Value) :
      Deed stage (.setVariable id operation operand)
        { stage with world := stage.world.setVariable id value }
  | announce (receiver : Receiver) (system : Bool) (event : Nat) (parameters : List Operand)
      (request : EventRequest) :
      Deed stage (.sendEvent receiver system event parameters)
        { stage with effects := stage.effects.queue request }
  | depart (map : Nat) (position : Position) (orientation : Option Orientation)
      (elsewhere : stage.world.map ≠ some map) :
      Deed stage (.teleport map position orientation)
        { stage with effects := stage.effects.requestScene ⟨map, position, orientation⟩ }
  | put (map : Nat) (position : Position) (orientation : Option Orientation)
      (here : stage.world.map = some map) (hero : MapObject)
      (present : stage.world.object? stage.world.heroOrDefault = some hero) :
      Deed stage (.teleport map position orientation) { stage with
        world := stage.world.modifyObject stage.world.heroOrDefault (fun object =>
          { object with
            position := position
            orientation := orientation.getD object.orientation }) }
  | walk (reference : ObjectRef) (steps : List Orientation) (waitEnd : Bool) (framesPerStep : Nat)
      (id : Nat) (object : MapObject) (direction : Orientation)
      (present : stage.world.object? id = some object) :
      Deed stage (.moveObject reference steps waitEnd framesPerStep)
        { stage with world := Walk.stepObject stage.world id object direction }
  | activate (reference : ObjectRef) (state : Nat) (operation : StateOperation) (id : Nat)
      (object : MapObject) (present : stage.world.object? id = some object)
      (declared : operation ≠ .remove → object.model.hasState state = true) :
      Deed stage (.changeState reference state operation)
        { stage with world := stage.world.modifyObject id (operation.on state) }
  | remove (reference : ObjectRef) (id : Nat) (object : MapObject)
      (present : stage.world.object? id = some object) :
      Deed stage (.removeObject reference)
        { stage with world := stage.world.removeObject id }

theorem Context.object?_of_referred {context : Context} {world : World} {kind : String}
    {reference : ObjectRef} {id : Nat} {object : MapObject}
    (found : context.referred world kind reference = .ok (id, object)) :
    world.object? id = some object := by
  unfold Context.referred at found
  split at found
  · cases found
  · split at found
    · rename_i present
      cases found
      exact present
    · cases found

namespace Plain

variable {context : Context} {stage after : Stage} {flow : Flow}

theorem setVariable_deed {id : Nat} {operation : VariableOperation} {value : Operand}
    (done : setVariable context id operation value stage = .ok (flow, after)) :
    flow = .next ∧ Deed stage (.setVariable id operation value) after := by
  unfold setVariable at done
  split at done
  · cases done
  · split at done
    · cases done
    · rename_i result _
      cases done
      exact ⟨rfl, .assign id operation value result⟩

theorem sendEvent_deed {kind : String} {receiver : Receiver} {system : Bool} {event : Nat}
    {parameters : List Operand}
    (done : sendEvent context kind receiver system event parameters stage = .ok (flow, after)) :
    flow = .next ∧ Deed stage (.sendEvent receiver system event parameters) after := by
  unfold sendEvent at done
  split at done
  · cases done
  · split at done
    · cases done
    · cases done
      exact ⟨rfl, .announce receiver system event parameters _⟩

theorem teleport_deed {map : Nat} {position : Position} {orientation : Option Orientation}
    (done : teleport map position orientation stage = .ok (flow, after)) :
    flow = .next ∧ Deed stage (.teleport map position orientation) after := by
  unfold teleport at done
  split at done
  · rename_i here
    dsimp only at done
    split at done
    · cases done
    · rename_i hero present
      cases done
      exact ⟨rfl, .put map position orientation here hero present⟩
  · rename_i elsewhere
    cases done
    exact ⟨rfl, .depart map position orientation elsewhere⟩

theorem changeState_deed {kind : String} {reference : ObjectRef} {state : Nat}
    {operation : StateOperation}
    (done : changeState context kind reference state operation stage = .ok (flow, after)) :
    flow = .next ∧ Deed stage (.changeState reference state operation) after := by
  unfold changeState at done
  split at done
  · cases done
  · rename_i id object found
    split at done
    · cases done
    · rename_i known
      cases done
      have present := Context.object?_of_referred found
      refine ⟨rfl, .activate reference state operation id object present ?_⟩
      intro activates
      simpa [activates] using known

theorem removeObject_deed {kind : String} {reference : ObjectRef}
    (done : removeObject context kind reference stage = .ok (flow, after)) :
    flow = .next ∧ Deed stage (.removeObject reference) after := by
  unfold removeObject at done
  split at done
  · cases done
  · rename_i id object found
    cases done
    exact ⟨rfl, .remove reference id object (Context.object?_of_referred found)⟩

theorem stage_of_ifThen {condition : Condition} {hasElse : Bool}
    (done : ifThen context condition hasElse stage = .ok (flow, after)) : after = stage := by
  unfold ifThen at done
  split at done <;> cases done <;> rfl

theorem stage_of_whileLoop {condition : Condition}
    (done : whileLoop context condition stage = .ok (flow, after)) : after = stage := by
  unfold whileLoop at done
  split at done <;> cases done <;> rfl

theorem stage_of_breakLoop (done : breakLoop context stage = .ok (flow, after)) :
    after = stage := by
  unfold breakLoop at done
  split at done <;> cases done <;> rfl

theorem stage_of_choice (done : choice context stage = .ok (flow, after)) : after = stage := by
  unfold choice at done
  split at done <;> cases done <;> rfl

end Plain

theorem Flow.next_or_stay (choice : Prop) [Decidable choice] :
    (if choice then Flow.next else .stay) = .next ∨
      (if choice then Flow.next else .stay) = .stay := by
  by_cases holds : choice <;> simp [holds]

namespace Walk

variable {steps : List Orientation} {framesPerStep : Nat} {walk walked : Walk}
  {world after : World} {flow : Flow}

theorem tick_moving (steps : List Orientation) (framesPerStep : Nat) (walk : Walk) (world : World) :
    walk.tick true steps framesPerStep world =
      match world.object? walk.object with
      | none => .error (.missingObject walk.object)
      | some object =>
        if object.isPaused then .ok (.stay, walk, world)
        else walk.tick false steps framesPerStep world :=
  rfl

theorem tick_still_ok
    (done : walk.tick false steps framesPerStep world = .ok (flow, walked, after)) :
    (flow = .next ∨ flow = .stay) ∧
      (after = world ∨ ∃ object direction, world.object? walk.object = some object ∧
        after = stepObject world walk.object object direction) := by
  simp only [tick, Bool.false_eq_true, ↓reduceIte] at done
  split at done
  · cases done
    exact ⟨Flow.next_or_stay _, .inl rfl⟩
  · split at done
    · cases done
      exact ⟨.inl rfl, .inl rfl⟩
    · rename_i direction _
      split at done
      · cases done
      · rename_i object present
        cases done
        exact ⟨Flow.next_or_stay _, .inr ⟨object, direction, present, rfl⟩⟩

/-- One tick of a walk takes at most one step, and stays or goes on. -/
theorem tick_ok {moving : Bool}
    (done : walk.tick moving steps framesPerStep world = .ok (flow, walked, after)) :
    (flow = .next ∨ flow = .stay) ∧
      (after = world ∨ ∃ object direction, world.object? walk.object = some object ∧
        after = stepObject world walk.object object direction) := by
  cases moving with
  | false => exact tick_still_ok done
  | true =>
    rw [tick_moving] at done
    split at done
    · cases done
    · split at done
      · cases done
        exact ⟨.inr rfl, .inl rfl⟩
      · exact tick_still_ok done

end Walk

namespace Standard

variable {context : Context} {command : Command} {stage after : Stage} {flow : Flow}

theorem performPlain_deed
    (done : performPlain context command stage = some (.ok (flow, after))) :
    Deed stage command after := by
  cases command with
  | choice => exact Plain.stage_of_choice (Option.some.inj done) ▸ .nothing _
  | ifThen condition hasElse => exact Plain.stage_of_ifThen (Option.some.inj done) ▸ .nothing _
  | whileLoop condition => exact Plain.stage_of_whileLoop (Option.some.inj done) ▸ .nothing _
  | breakLoop => exact Plain.stage_of_breakLoop (Option.some.inj done) ▸ .nothing _
  | elseBranch | stopReaction =>
    cases done
    exact .nothing _
  | setVariable id operation value => exact (Plain.setVariable_deed (Option.some.inj done)).2
  | sendEvent receiver system event parameters =>
    exact (Plain.sendEvent_deed (Option.some.inj done)).2
  | teleport map position orientation => exact (Plain.teleport_deed (Option.some.inj done)).2
  | changeState object state operation => exact (Plain.changeState_deed (Option.some.inj done)).2
  | removeObject object => exact (Plain.removeObject_deed (Option.some.inj done)).2
  | _ => cases done

/-- Every command that is performed where it stands does one deed of its own. -/
theorem performLocal_deed {activity kept : Activity}
    (done : performLocal context command activity stage = .ok (flow, kept, after)) :
    Deed stage command after := by
  unfold performLocal at done
  split at done
  · split at done <;> cases done <;> exact .nothing _
  · cases done
    exact .nothing _
  · cases done
    exact .nothing _
  · split at done
    · cases done
    · rename_i walked
      cases done
      rcases (Walk.tick_ok walked).2 with same | ⟨object, direction, present, rfl⟩
      · rw [same]
        exact .nothing _
      · exact .walk _ _ _ _ _ object direction present
  · split at done
    · cases done
    · cases done
    · rename_i performed
      cases done
      exact performPlain_deed performed
  · cases done

end Standard

namespace Deed

variable {stage after : Stage} {command : Command}

theorem diagnostics_eq (deed : Deed stage command after) :
    after.effects.diagnostics = stage.effects.diagnostics := by
  cases deed with
  | depart map position orientation elsewhere =>
    simp only [Effects.requestScene]
    split <;> rfl
  | _ => rfl

theorem forks_eq (deed : Deed stage command after) :
    after.effects.forks = stage.effects.forks := by
  cases deed with
  | depart map position orientation elsewhere =>
    simp only [Effects.requestScene]
    split <;> rfl
  | _ => rfl

/-- Only a teleport asks for another map, and for its own. -/
theorem scene_eq (deed : Deed stage command after) :
    after.effects.scene = stage.effects.scene ∨ ∃ map position orientation,
      command = .teleport map position orientation ∧
        after.effects.scene = some ⟨map, position, orientation⟩ := by
  cases deed with
  | depart map position orientation elsewhere =>
    cases asked : stage.effects.scene with
    | some request => exact .inl (by simp [Effects.requestScene, asked])
    | none => exact .inr ⟨map, position, orientation, rfl, by simp [Effects.requestScene, asked]⟩
  | _ => exact .inl rfl

end Deed

end TileScript
