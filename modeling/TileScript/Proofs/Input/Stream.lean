import TileScript.Proofs.Input.Held

namespace TileScript

def InputEvent.turns (key : InputKey) : InputEvent → Bool
  | .keyPressed turned | .keyReleased turned => turned == key
  | _ => false

namespace InputCollector

/-- What an operation adds to the stream, by the operations before it. -/
inductive Adds (before : List Operation) : Operation → List InputEvent → Prop where
  | press (key : InputKey) (up : ¬ Down before key) :
      Adds before (.push (.keyPressed key)) [.keyPressed key, .keyPressedAndRepeat key]
  | pressAgain (key : InputKey) (down : Down before key) : Adds before (.push (.keyPressed key)) []
  | release (key : InputKey) (down : Down before key) :
      Adds before (.push (.keyReleased key)) [.keyReleased key]
  | releaseAgain (key : InputKey) (up : ¬ Down before key) :
      Adds before (.push (.keyReleased key)) []
  | other (event : InputEvent) (quiet : ∀ key, event.turns key = false) :
      Adds before (.push event) [event]
  | repeats (keys : List InputKey) (listed : keys.Sublist InputKey.all)
      (due : ∀ key, key ∈ keys ↔ ∃ ticks, HeldFor before key ticks ∧ keyRepeatTicks ∣ ticks + 1) :
      Adds before .drain (keys.flatMap repetition)

namespace Log

/-- Every operation adds to the end of the stream, and a drain delivers all there is. -/
theorem Tracks.adds {operations : List Operation} {log : Log} (tracks : log.Tracks operations)
    (operation : Operation) (few : drains (operations ++ [operation]) ≤ heldLimit) :
    ∃ new, (log.apply operation).stream = log.stream ++ new ∧ Adds operations operation new := by
  have down := tracks.down
  cases operation with
  | push event =>
    have pushed : (log.apply (.push event)).stream =
        delivered log.drained ++ (log.collector.push event).pending := rfl
    rw [pushed, stream]
    cases event with
    | keyPressed key =>
      simp only [InputCollector.push, press]
      split
      · rename_i held
        exact ⟨[], by simp, .pressAgain key ((down key).mp held)⟩
      · rename_i raised
        exact ⟨_, (List.append_assoc _ _ _).symm, .press key (raised ∘ (down key).mpr)⟩
    | keyReleased key =>
      simp only [InputCollector.push, release]
      split
      · rename_i held
        exact ⟨_, (List.append_assoc _ _ _).symm, .release key ((down key).mp held)⟩
      · rename_i raised
        exact ⟨[], by simp, .releaseAgain key (raised ∘ (down key).mpr)⟩
    | _ => exact ⟨_, (List.append_assoc _ _ _).symm, .other _ (fun key => rfl)⟩
  | drain =>
    obtain ⟨_, _, pending⟩ := foldl_holdKey log.collector InputKey.nodup_all
    refine ⟨(InputKey.all.filter log.collector.repeating).flatMap repetition, ?_, ?_⟩
    · change delivered (log.drained ++ [((InputKey.all.foldl holdKey log.collector).pending, _)]) ++
        [] = _
      rw [pending]
      simp [delivered, stream]
    · apply Adds.repeats _ List.filter_sublist
      intro key
      simp only [List.mem_filter, InputKey.mem_all, true_and, repeating, Bool.and_eq_true, down key,
        beq_iff_eq, ← Nat.dvd_iff_mod_eq_zero, tracks.held]
      constructor
      · rintro ⟨held, due⟩
        have bound := heldFor_le ((tracks.held key _).mpr ⟨held, rfl⟩)
        refine ⟨_, ⟨held, rfl⟩, ?_⟩
        rw [drains_snoc] at few
        simp only [Operation.isDrain, ↓reduceIte] at few
        rwa [counted, Nat.min_eq_left (by omega)] at due
      · rintro ⟨ticks, ⟨held, rfl⟩, due⟩
        have bound := heldFor_le ((tracks.held key _).mpr ⟨held, rfl⟩)
        rw [drains_snoc] at few
        simp only [Operation.isDrain, ↓reduceIte] at few
        rw [counted, Nat.min_eq_left (by omega)]
        exact ⟨held, due⟩

end Log

def turn (key : InputKey) (index : Nat) : InputEvent :=
  if index % 2 = 0 then .keyPressed key else .keyReleased key

def InTurns (key : InputKey) (events : List InputEvent) : Prop :=
  ∃ count, events.filter (InputEvent.turns key) = (List.range count).map (turn key)

def Announced (key : InputKey) (events : List InputEvent) : Prop :=
  ∀ index, events[index]? = some (.keyPressed key) →
    events[index + 1]? = some (.keyPressedAndRepeat key)

section Stream

variable {operations : List Operation} {operation : Operation} {new : List InputEvent}

theorem turns_repetition (key : InputKey) (keys : List InputKey) :
    (keys.flatMap repetition).filter (InputEvent.turns key) = [] := by
  rw [List.filter_eq_nil_iff]
  intro event member
  obtain ⟨repeated, _, member⟩ := List.mem_flatMap.mp member
  simp only [repetition, List.mem_cons, List.not_mem_nil, or_false] at member
  rcases member with rfl | rfl <;> exact Bool.false_ne_true

/-- An operation that says nothing of a key leaves it as it was; otherwise it turns the key. -/
theorem Adds.turned (adds : Adds operations operation new) (key : InputKey) :
    new.filter (InputEvent.turns key) = [] ∧
        (Down (operations ++ [operation]) key ↔ Down operations key) ∨
      new.filter (InputEvent.turns key) = [.keyPressed key] ∧ ¬ Down operations key ∧
        Down (operations ++ [operation]) key ∨
      new.filter (InputEvent.turns key) = [.keyReleased key] ∧ Down operations key ∧
        ¬ Down (operations ++ [operation]) key := by
  rw [down_snoc]
  cases adds with
  | press turned up =>
    by_cases same : turned = key
    · subst same
      exact .inr (.inl (by simp [InputEvent.turns, up, Operation.turn?]))
    · exact .inl (by simp [InputEvent.turns, same, Operation.turn?])
  | pressAgain turned down =>
    by_cases same : turned = key
    · subst same
      exact .inl (by simp [down, Operation.turn?])
    · exact .inl (by simp [same, Operation.turn?])
  | release turned down =>
    by_cases same : turned = key
    · subst same
      exact .inr (.inr (by simp [InputEvent.turns, down, Operation.turn?]))
    · exact .inl (by simp [InputEvent.turns, same, Operation.turn?])
  | releaseAgain turned up =>
    by_cases same : turned = key
    · subst same
      exact .inl (by simp [up, Operation.turn?])
    · exact .inl (by simp [same, Operation.turn?])
  | other event quiet =>
    have silent : (Operation.push event).turn? key = none := by
      have quiet := quiet key
      cases event <;> simp_all [InputEvent.turns, Operation.turn?]
    exact .inl (by simp [quiet key, silent])
  | repeats keys => exact .inl ⟨turns_repetition key keys, Iff.rfl⟩

theorem Announced.append {key : InputKey} {events more : List InputEvent}
    (first : Announced key events) (second : Announced key more) :
    Announced key (events ++ more) := by
  intro index pressed
  by_cases within : index < events.length
  · rw [List.getElem?_append_left within] at pressed
    have next := first index pressed
    have inside : index + 1 < events.length := (List.getElem?_eq_some_iff.mp next).1
    rw [List.getElem?_append_left inside, next]
  · rw [List.getElem?_append_right (by omega)] at pressed
    have next := second _ pressed
    rw [List.getElem?_append_right (by omega), ← next]
    congr 1
    omega

theorem Adds.announced (adds : Adds operations operation new) (key : InputKey) :
    Announced key new := by
  intro index pressed
  have member : InputEvent.keyPressed key ∈ new.filter (InputEvent.turns key) := by
    rw [List.mem_filter]
    exact ⟨List.mem_of_getElem? pressed, by simp [InputEvent.turns]⟩
  cases adds with
  | press turned up =>
    match index with
    | 0 =>
      cases pressed
      rfl
    | 1 => cases pressed
    | _ + 2 => cases pressed
  | pressAgain | releaseAgain => cases pressed
  | release => simp [List.filter_cons] at member
  | other event quiet => simp [quiet key] at member
  | repeats keys =>
    rw [turns_repetition] at member
    cases member

/-- A key is down after an odd number of turns. -/
theorem turns_of (few : drains operations ≤ heldLimit) (key : InputKey) :
    ∃ count, (Log.of operations).stream.filter (InputEvent.turns key) =
        (List.range count).map (turn key) ∧ (Down operations key ↔ count % 2 = 1) := by
  induction operations using List.reverseRecOn with
  | nil => exact ⟨0, rfl, by simp [Down]⟩
  | append_singleton operations operation ih =>
    have fewer := Nat.le_trans (drains_le_snoc operations operation) few
    obtain ⟨count, turned, parity⟩ := ih fewer
    obtain ⟨new, grown, adds⟩ := (Log.tracks_of operations fewer).adds operation few
    rw [Log.of_snoc, grown, List.filter_append, turned]
    rcases adds.turned key with ⟨none, same⟩ | ⟨one, up, down⟩ | ⟨one, down, up⟩
    · exact ⟨count, by simp [none], same.trans parity⟩
    · have even : count % 2 = 0 := by
        have odd : ¬ count % 2 = 1 := up ∘ parity.mpr
        omega
      refine ⟨count + 1, ?_, iff_of_true down (by omega)⟩
      simp [one, List.range_succ, turn, even]
    · have odd : count % 2 = 1 := parity.mp down
      refine ⟨count + 1, ?_, iff_of_false up (by omega)⟩
      simp [one, List.range_succ, turn, odd]

theorem announced_of (few : drains operations ≤ heldLimit) (key : InputKey) :
    Announced key (Log.of operations).stream := by
  induction operations using List.reverseRecOn with
  | nil => exact nofun
  | append_singleton operations operation ih =>
    have fewer := Nat.le_trans (drains_le_snoc operations operation) few
    obtain ⟨new, grown, adds⟩ := (Log.tracks_of operations fewer).adds operation few
    rw [Log.of_snoc, grown]
    exact (ih fewer).append (adds.announced key)

theorem getLast?_turns (key : InputKey) (count : Nat) :
    ((List.range count).map (turn key)).getLast? = some (.keyPressed key) ↔ count % 2 = 1 := by
  cases count with
  | zero => simp
  | succ count =>
    rw [List.range_succ, List.map_append, List.map_singleton, List.getLast?_append]
    by_cases even : count % 2 = 0
    · simp [turn, even]
      omega
    · simp [turn, even]
      omega

theorem stream_drain (log : Log) :
    (log.apply .drain).stream = delivered (log.apply .drain).drained := List.append_nil _

theorem length_drained (operations : List Operation) :
    (Log.of operations).drained.length = drains operations := by
  induction operations using List.reverseRecOn with
  | nil => rfl
  | append_singleton operations operation ih =>
    rw [Log.of_snoc, drains_snoc, ← ih]
    cases operation <;> simp [Log.apply, Operation.isDrain]

/-- A snapshot shows a key as down if the last it delivered of the key is a press. -/
theorem snapshot_of (few : drains operations ≤ heldLimit) (key : InputKey) {index : Nat}
    {events : List InputEvent} {snapshot : InputSnapshot}
    (taken : (Log.of operations).drained[index]? = some (events, snapshot)) :
    snapshot.isDown key = true ↔
      ((delivered ((Log.of operations).drained.take (index + 1))).filter
        (InputEvent.turns key)).getLast? = some (.keyPressed key) := by
  induction operations using List.reverseRecOn with
  | nil => cases taken
  | append_singleton operations operation ih =>
    have fewer := Nat.le_trans (drains_le_snoc operations operation) few
    cases operation with
    | push event =>
      rw [Log.of_snoc] at taken ⊢
      exact ih fewer taken
    | drain =>
      by_cases earlier : index < (Log.of operations).drained.length
      · rw [Log.of_snoc] at taken ⊢
        simp only [Log.apply] at taken ⊢
        rw [List.getElem?_append_left earlier] at taken
        rw [List.take_append_of_le_length earlier]
        exact ih fewer taken
      · obtain ⟨count, turned, parity⟩ := turns_of few key
        have within := (List.getElem?_eq_some_iff.mp taken).1
        have size : (Log.of (operations ++ [.drain])).drained.length =
            (Log.of operations).drained.length + 1 := by
          simp [length_drained, drains_snoc, Operation.isDrain]
        have whole : delivered ((Log.of (operations ++ [.drain])).drained.take (index + 1)) =
            (Log.of (operations ++ [.drain])).stream := by
          rw [List.take_of_length_le (by omega), Log.of_snoc, stream_drain]
        have shown : snapshot.isDown key =
            (Log.of (operations ++ [.drain])).collector.keys.get key := by
          rw [Log.of_snoc] at taken ⊢
          simp only [Log.apply] at taken
          rw [List.getElem?_append_right (by omega)] at taken
          have first : index - (Log.of operations).drained.length = 0 := by omega
          rw [first] at taken
          cases taken
          rfl
        rw [whole, turned, getLast?_turns, ← parity, shown]
        exact (Log.tracks_of _ few).down key

theorem getElem?_snoc {α : Type} {values : List α} {last value : α} {index : Nat}
    (found : (values ++ [last])[index]? = some value) :
    index < values.length ∧ values[index]? = some value ∨
      index = values.length ∧ value = last := by
  by_cases earlier : index < values.length
  · rw [List.getElem?_append_left earlier] at found
    exact .inl ⟨earlier, found⟩
  · have within := (List.getElem?_eq_some_iff.mp found).1
    rw [List.length_append, List.length_singleton] at within
    obtain rfl : index = values.length := by omega
    rw [List.getElem?_concat_length] at found
    exact .inr ⟨rfl, (Option.some.inj found).symm⟩

structure Told (operations : List Operation) (log : Log) (parts : List (List InputEvent)) : Prop
    where
  length : parts.length = operations.length
  stream : log.stream = parts.flatten
  adds : ∀ index operation part, operations[index]? = some operation →
    parts[index]? = some part → Adds (operations.take index) operation part
  /-- What is added up to a drain is what is delivered up to it. -/
  delivered : ∀ index, operations[index]? = some .drain →
    delivered (log.drained.take (drains (operations.take (index + 1)))) =
      (parts.take (index + 1)).flatten

theorem told_of (few : drains operations ≤ heldLimit) :
    ∃ parts, Told operations (Log.of operations) parts := by
  induction operations using List.reverseRecOn with
  | nil => exact ⟨[], rfl, rfl, nofun, nofun⟩
  | append_singleton operations operation ih =>
    have fewer := Nat.le_trans (drains_le_snoc operations operation) few
    obtain ⟨parts, told⟩ := ih fewer
    obtain ⟨new, grown, adds⟩ := (Log.tracks_of operations fewer).adds operation few
    have counted := told.length
    have whole : (Log.of (operations ++ [operation])).stream = (parts ++ [new]).flatten := by
      rw [Log.of_snoc, grown, told.stream, List.flatten_append, List.flatten_singleton]
    refine ⟨parts ++ [new], by simp [counted], whole, ?_, ?_⟩
    · intro index other part here made
      rcases getElem?_snoc here with ⟨earlier, before⟩ | ⟨rfl, rfl⟩
      · rw [List.getElem?_append_left (by omega)] at made
        rw [List.take_append_of_le_length (by omega)]
        exact told.adds index other part before made
      · rw [← counted, List.getElem?_concat_length] at made
        cases made
        rw [List.take_left' rfl]
        exact adds
    · intro index here
      rcases getElem?_snoc here with ⟨earlier, before⟩ | ⟨rfl, rfl⟩
      · have bound : drains (operations.take (index + 1)) ≤
            (Log.of operations).drained.length := by
          rw [length_drained]
          exact (List.take_sublist _ _).countP_le
        rw [List.take_append_of_le_length (by omega), List.take_append_of_le_length (by omega),
          ← told.delivered index before, Log.of_snoc]
        cases operation with
        | push event => rfl
        | drain =>
          simp only [Log.apply]
          rw [List.take_append_of_le_length bound]
      · have all : (operations ++ [Operation.drain]).take (operations.length + 1) =
            operations ++ [Operation.drain] := List.take_of_length_le (by simp)
        rw [all, ← length_drained, List.take_length, List.take_of_length_le (by simp [counted]),
          ← whole, Log.of_snoc, stream_drain]

/--
In the stream of a collector every key goes down and up by turns, each press is announced at once,
and a snapshot shows the keys whose last delivered turn is a press. Every operation adds what the
operations before it call for, at its place in the order of all operations.
-/
theorem stream_follows_operations (operations : List Operation)
    (few : drains operations < UInt32.size) (key : InputKey) :
    InTurns key (Log.of operations).stream ∧
      (∀ index events snapshot, (Log.of operations).drained[index]? = some (events, snapshot) →
        (snapshot.isDown key = true ↔
          ((delivered ((Log.of operations).drained.take (index + 1))).filter
            (InputEvent.turns key)).getLast? = some (.keyPressed key))) ∧
      Announced key (Log.of operations).stream ∧
      ∃ parts, Told operations (Log.of operations) parts := by
  have bounded : drains operations ≤ heldLimit := Nat.le_pred_of_lt few
  obtain ⟨count, turned, _⟩ := turns_of bounded key
  exact ⟨⟨count, turned⟩, fun _ _ _ taken => snapshot_of bounded key taken,
    announced_of bounded key, told_of bounded⟩

def march : List Operation :=
  [.push (.keyPressed .left), .push (.keyPressed .left), .drain, .drain, .drain, .drain, .drain,
    .drain, .drain, .push (.keyPressedRepeat .up), .drain, .push (.keyReleased .left)]

theorem march_repeats_once :
    drains march < UInt32.size ∧ InTurns .left (Log.of march).stream ∧
      (∃ parts, Told march (Log.of march) parts) ∧
      (Log.of march).stream =
        [.keyPressed .left, .keyPressedAndRepeat .left, .keyPressedRepeat .up,
          .keyPressedRepeat .left, .keyPressedAndRepeat .left, .keyReleased .left] := by
  have few : drains march < UInt32.size := by decide
  obtain ⟨turns, _, _, told⟩ := stream_follows_operations march few .left
  exact ⟨few, turns, told, rfl⟩

end Stream

end InputCollector

end TileScript
