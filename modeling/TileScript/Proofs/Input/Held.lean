import Mathlib.Data.List.Induction
import TileScript.Input.Collector

namespace TileScript

namespace KeyTable

variable {α : Type}

@[simp]
theorem get_set (table : KeyTable α) (key other : InputKey) (value : α) :
    (table.set key value).get other = if other = key then value else table.get other := by
  cases key <;> cases other <;> rfl

@[simp]
theorem get_constant (value : α) (key : InputKey) : (constant value).get key = value := by
  cases key <;> rfl

end KeyTable

theorem InputKey.mem_all (key : InputKey) : key ∈ InputKey.all := by
  cases key <;> decide

theorem InputKey.nodup_all : InputKey.all.Nodup := by decide

namespace InputCollector

inductive Operation where
  | push (event : InputEvent)
  | drain

namespace Operation

def turn? (key : InputKey) : Operation → Option Bool
  | .push (.keyPressed turned) => if turned = key then some true else none
  | .push (.keyReleased turned) => if turned = key then some false else none
  | _ => none

def isDrain : Operation → Bool
  | .push _ => false
  | .drain => true

theorem turn?_cases (key : InputKey) (operation : Operation) :
    operation = .push (.keyPressed key) ∧ operation.turn? key = some true ∨
      operation = .push (.keyReleased key) ∧ operation.turn? key = some false ∨
      operation ≠ .push (.keyPressed key) ∧ operation ≠ .push (.keyReleased key) ∧
        operation.turn? key = none := by
  cases operation with
  | drain => exact .inr (.inr ⟨nofun, nofun, rfl⟩)
  | push event =>
    cases event with
    | keyPressed turned => by_cases same : turned = key <;> simp [turn?, same]
    | keyReleased turned => by_cases same : turned = key <;> simp [turn?, same]
    | _ => exact .inr (.inr ⟨nofun, nofun, rfl⟩)

end Operation

def Down (operations : List Operation) (key : InputKey) : Prop :=
  (operations.filterMap (Operation.turn? key)).getLast? = some true

def drains (operations : List Operation) : Nat := operations.countP Operation.isDrain

def HeldFor (operations : List Operation) (key : InputKey) (ticks : Nat) : Prop :=
  ∃ before since, operations = before ++ .push (.keyPressed key) :: since ∧ ¬ Down before key ∧
    .push (.keyReleased key) ∉ since ∧ drains since = ticks

def repetition (key : InputKey) : List InputEvent := [.keyPressedRepeat key, .keyPressedAndRepeat key]

section History

variable {operations : List Operation} {key : InputKey} {ticks : Nat}

theorem down_snoc (operation : Operation) :
    Down (operations ++ [operation]) key ↔
      (operation.turn? key).elim (Down operations key) (· = true) := by
  unfold Down
  rw [List.filterMap_append]
  cases turn : operation.turn? key <;> simp [turn]

theorem drains_snoc (operation : Operation) :
    drains (operations ++ [operation]) =
      drains operations + if operation.isDrain then 1 else 0 := by
  simp [drains, List.countP_append, List.countP_cons]

theorem drains_le_snoc (operations : List Operation) (operation : Operation) :
    drains operations ≤ drains (operations ++ [operation]) := by
  rw [drains_snoc]
  exact Nat.le_add_right _ _

theorem heldFor_le (held : HeldFor operations key ticks) : ticks ≤ drains operations := by
  obtain ⟨before, since, rfl, _, _, rfl⟩ := held
  simp only [drains, List.countP_append, List.countP_cons]
  omega

theorem heldFor_snoc (operation : Operation) :
    HeldFor (operations ++ [operation]) key ticks ↔
      operation = .push (.keyPressed key) ∧ ¬ Down operations key ∧ ticks = 0 ∨
      operation ≠ .push (.keyReleased key) ∧ ∃ earlier, HeldFor operations key earlier ∧
        ticks = earlier + if operation.isDrain then 1 else 0 := by
  constructor
  · intro held
    obtain ⟨before, since, split, up, pressed, rfl⟩ := held
    rcases List.eq_nil_or_concat since with rfl | ⟨earlier, last, rfl⟩
    · obtain ⟨rfl, same⟩ := List.append_inj' split rfl
      cases same
      exact .inl ⟨rfl, up, rfl⟩
    · rw [List.concat_eq_append, ← List.cons_append, ← List.append_assoc] at split
      obtain ⟨rfl, same⟩ := List.append_inj' split rfl
      cases same
      rw [List.concat_eq_append, List.mem_append, not_or, List.mem_singleton] at pressed
      rw [List.concat_eq_append, drains_snoc]
      exact .inr ⟨Ne.symm pressed.2, _, ⟨before, earlier, rfl, up, pressed.1, rfl⟩, rfl⟩
  · intro either
    rcases either with ⟨rfl, up, rfl⟩ | ⟨other, earlier, held, rfl⟩
    · exact ⟨operations, [], rfl, up, List.not_mem_nil, rfl⟩
    · obtain ⟨before, since, rfl, up, pressed, rfl⟩ := held
      refine ⟨before, since ++ [operation], by simp, up, ?_, drains_snoc operation⟩
      rw [List.mem_append, not_or, List.mem_singleton]
      exact ⟨pressed, Ne.symm other⟩

end History

section Collector

variable (collector : InputCollector)

theorem keys_push (event : InputEvent) (key : InputKey) :
    (collector.push event).keys.get key =
      ((Operation.push event).turn? key).getD (collector.keys.get key) := by
  cases event with
  | keyPressed turned =>
    simp only [push, press, Operation.turn?]
    by_cases same : turned = key
    · subst same
      split <;> simp [*]
    · split <;> simp [Ne.symm same]
  | keyReleased turned =>
    simp only [push, release, Operation.turn?]
    by_cases same : turned = key
    · subst same
      split <;> simp [*]
    · split <;> simp [Ne.symm same]
  | _ => rfl

theorem held_push (event : InputEvent) (key : InputKey)
    (settled : event = .keyPressed key → collector.keys.get key = true) :
    (collector.push event).held.get key = collector.held.get key := by
  cases event with
  | keyPressed turned =>
    simp only [push, press]
    split
    · rfl
    · rename_i up
      by_cases same : turned = key
      · subst same
        exact absurd (settled rfl) up
      · simp [Ne.symm same]
  | keyReleased turned =>
    simp only [push, release]
    split <;> rfl
  | _ => rfl

theorem held_press {key : InputKey} (up : collector.keys.get key = false) :
    (collector.push (.keyPressed key)).held.get key = 0 := by
  simp [push, press, up]

def counted (key : InputKey) : Nat := min (collector.held.get key + 1) heldLimit

def repeating (key : InputKey) : Bool :=
  collector.keys.get key && collector.counted key % keyRepeatTicks == 0

theorem foldl_holdKey {keys : List InputKey} (nodup : keys.Nodup) :
    (keys.foldl holdKey collector).keys = collector.keys ∧
      (∀ key, (keys.foldl holdKey collector).held.get key =
        if key ∈ keys ∧ collector.keys.get key = true then collector.counted key
        else collector.held.get key) ∧
      (keys.foldl holdKey collector).pending =
        collector.pending ++ (keys.filter collector.repeating).flatMap repetition := by
  induction keys generalizing collector with
  | nil => simp
  | cons first rest ih =>
    rw [List.nodup_cons] at nodup
    obtain ⟨keys, held, pending⟩ := ih (collector.holdKey first) nodup.2
    rw [List.foldl_cons]
    -- The keys after the first are not touched by it.
    have apart : ∀ key ∈ rest, (collector.holdKey first).held.get key = collector.held.get key := by
      intro key later
      have other : key ≠ first := fun same => nodup.1 (same ▸ later)
      unfold holdKey
      split <;> simp [other]
    have same : (collector.holdKey first).keys = collector.keys := by
      unfold holdKey
      split <;> rfl
    have alike : rest.filter (collector.holdKey first).repeating =
        rest.filter collector.repeating := by
      apply List.filter_congr
      intro key later
      simp only [repeating, counted, same, apart key later]
    refine ⟨keys.trans same, ?_, ?_⟩
    · intro key
      rw [held]
      by_cases later : key ∈ rest
      · simp [later, same, counted, apart key later]
      · by_cases here : key = first
        · subst here
          simp only [later, false_and, ↓reduceIte, List.mem_cons, true_or, true_and]
          unfold holdKey
          split <;> simp [counted]
        · simp only [later, here, List.mem_cons, or_self, false_and, ↓reduceIte]
          unfold holdKey
          split <;> simp [here]
    · rw [pending, alike]
      unfold holdKey
      by_cases down : collector.keys.get first = true
      · by_cases due : collector.counted first % keyRepeatTicks = 0
        · have now : collector.repeating first = true := by simp [repeating, down, due]
          have due' : min (collector.held.get first + 1) heldLimit % keyRepeatTicks = 0 := due
          simp [down, due', now, repetition]
        · have now : collector.repeating first = false := by simp [repeating, due]
          have due' : ¬ min (collector.held.get first + 1) heldLimit % keyRepeatTicks = 0 := due
          simp [down, due', now]
      · have now : collector.repeating first = false := by simp [repeating, down]
        simp [down, now]

end Collector

structure Log where
  collector : InputCollector := {}
  drained : List (List InputEvent × InputSnapshot) := []

def delivered (drained : List (List InputEvent × InputSnapshot)) : List InputEvent :=
  drained.flatMap (·.1)

namespace Log

def apply (log : Log) : Operation → Log
  | .push event => { log with collector := log.collector.push event }
  | .drain =>
    let (events, snapshot, after) := log.collector.drain
    ⟨after, log.drained ++ [(events, snapshot)]⟩

def of (operations : List Operation) : Log := operations.foldl apply {}

def stream (log : Log) : List InputEvent := delivered log.drained ++ log.collector.pending

theorem of_snoc (operations : List Operation) (operation : Operation) :
    of (operations ++ [operation]) = (of operations).apply operation := by
  simp [of, List.foldl_append]

structure Tracks (operations : List Operation) (log : Log) : Prop where
  down : ∀ key, log.collector.keys.get key = true ↔ Down operations key
  held : ∀ key ticks, HeldFor operations key ticks ↔
    Down operations key ∧ log.collector.held.get key = ticks

theorem Tracks.push {operations : List Operation} {log : Log} (tracks : log.Tracks operations)
    (event : InputEvent) : (log.apply (.push event)).Tracks (operations ++ [.push event]) := by
  constructor
  · intro key
    change (log.collector.push event).keys.get key = true ↔ _
    rw [keys_push, down_snoc, ← tracks.down key]
    cases (Operation.push event).turn? key <;> rfl
  · intro key ticks
    change _ ↔ _ ∧ (log.collector.push event).held.get key = ticks
    rw [heldFor_snoc, down_snoc]
    simp only [tracks.held, Operation.isDrain, Bool.false_eq_true, ↓reduceIte, Nat.add_zero]
    by_cases restarts : event = .keyPressed key ∧ log.collector.keys.get key = false
    · obtain ⟨rfl, up⟩ := restarts
      have raised : ¬ Down operations key := by
        rw [← tracks.down key, up]
        decide
      rw [held_press _ up]
      simp [raised, Operation.turn?, eq_comm]
    · have settled : event = .keyPressed key → log.collector.keys.get key = true := by
        intro press
        simpa [press] using restarts
      rw [held_push _ event key settled]
      rcases (Operation.push event).turn?_cases key with ⟨same, turn⟩ | ⟨same, turn⟩ |
        ⟨press, release, turn⟩
      · cases same
        have down := (tracks.down key).mp (settled rfl)
        simp [down, turn, eq_comm]
      · cases same
        simp [turn]
      · simp [press, release, turn, eq_comm]

theorem Tracks.drain {operations : List Operation} {log : Log} (tracks : log.Tracks operations)
    (few : drains (operations ++ [.drain]) ≤ heldLimit) :
    (log.apply .drain).Tracks (operations ++ [.drain]) := by
  obtain ⟨keys, held, _⟩ := foldl_holdKey log.collector InputKey.nodup_all
  constructor
  · intro key
    change (InputKey.all.foldl holdKey log.collector).keys.get key = true ↔ _
    rw [keys, down_snoc, tracks.down key]
    rfl
  · intro key ticks
    change _ ↔ _ ∧ (InputKey.all.foldl holdKey log.collector).held.get key = ticks
    have same : Down (operations ++ [.drain]) key ↔ Down operations key := by
      rw [down_snoc]
      rfl
    rw [heldFor_snoc, same, held]
    by_cases down : Down operations key
    · have known := (tracks.held key (log.collector.held.get key)).mpr ⟨down, rfl⟩
      have bound := heldFor_le known
      rw [drains_snoc] at few
      have exact : log.collector.counted key = log.collector.held.get key + 1 := by
        apply Nat.min_eq_left
        simp only [Operation.isDrain, ↓reduceIte] at few
        omega
      simp [tracks.held, down, InputKey.mem_all, (tracks.down key).mpr down, exact,
        Operation.isDrain, eq_comm]
    · simp [tracks.held, down]

theorem tracks_of (operations : List Operation) (few : drains operations ≤ heldLimit) :
    (of operations).Tracks operations := by
  induction operations using List.reverseRecOn with
  | nil =>
    constructor
    · intro key
      simp [of, Down]
    · intro key ticks
      simp [HeldFor, Down]
  | append_singleton operations operation ih =>
    rw [of_snoc]
    have fewer := Nat.le_trans (drains_le_snoc operations operation) few
    cases operation with
    | push event => exact (ih fewer).push event
    | drain => exact (ih fewer).drain few

end Log

end InputCollector

end TileScript
