import TileScript.Proofs.Scene.Clocks

namespace TileScript.MapScene

open World (Alike)

variable {id : Nat} {object : MapObject}

theorem fireDue_alike (id : Nat) (due : List (Nat × List Value)) (scheduler : Scheduler Activity)
    (world : World) : Alike MapObject.standing world (fireDue id due scheduler world).2.2 := by
  induction due generalizing scheduler world with
  | nil => exact .refl world
  | cons clock rest ih =>
    have received := Scheduler.receive_alike MapObject.unseen_standing scheduler world
      (timeDelivery id clock.2)
    rw [fireDue]
    dsimp only
    split
    · exact received.trans (ih _ _)
    · exact received

/-- What a tick does to the clocks of an object and what it starts for it. Some of the clocks that
are due fire, and all that is started answers one of them. -/
inductive Ticked (id : Nat) (object later : MapObject) (runs : List (Run Activity)) : Prop where
  | rests (gone : object.removed = true) (same : later.standing = object.standing)
      (idle : runs = []) : Ticked id object later runs
  | fires (clocks : List (Nat × List Value)) (due : clocks ⊆ Clock.due object.advanceClocks.clocks)
      (plays : ∀ run ∈ runs, (run.reaction, run.trigger) ∈ dueOffers id object clocks)
      (distinct : (runs.map Run.key).Nodup)
      (same : later.standing = (object.advanceClocks.fireClocks (clocks.map Prod.fst)).standing) :
      Ticked id object later runs

theorem Ticked.own {later : MapObject} {runs : List (Run Activity)}
    (ticked : Ticked id object later runs) : ∀ run ∈ runs, run.trigger.object = some id := by
  intro run member
  cases ticked with
  | rests _ _ idle =>
    rw [idle] at member
    cases member
  | fires clocks _ plays => exact object_of_mem_dueOffers (plays run member)

theorem Ticked.apart {later : MapObject} {runs : List (Run Activity)}
    (ticked : Ticked id object later runs) : (runs.map Run.key).Nodup := by
  cases ticked with
  | rests _ _ idle =>
    rw [idle]
    exact .nil
  | fires _ _ _ distinct => exact distinct

theorem Ticked.congr {first second earlier later : MapObject} {runs : List (Run Activity)}
    (ticked : Ticked id first earlier runs) (same : second.standing = first.standing)
    (same' : later.standing = earlier.standing) : Ticked id second later runs := by
  have known := same
  simp only [MapObject.standing, Prod.mk.injEq] at known
  obtain ⟨model, states, removed, clocks⟩ := known
  cases ticked with
  | rests gone kept idle =>
    exact .rests (removed.trans gone) (same'.trans (kept.trans same.symm)) idle
  | fires fired due plays distinct kept =>
    refine .fires fired ?_ ?_ distinct (same'.trans (kept.trans ?_))
    · rw [MapObject.advanceClocks, clocks]
      exact due
    · rw [dueOffers_congr same]
      exact plays
    · simp only [MapObject.standing, MapObject.fireClocks, MapObject.advanceClocks, model, states,
        removed, clocks]

theorem tickClocks_ticked (scheduler : Scheduler Activity) {world : World}
    (present : world.object? id = some object) :
    ∃ later runs, (tickClocks scheduler world id).2.object? id = some later ∧
      (tickClocks scheduler world id).1.blocking = scheduler.blocking ++ runs ∧
      Ticked id object later runs := by
  cases here : object.removed with
  | true =>
    refine ⟨object, [], ?_, ?_, .rests here rfl rfl⟩ <;> simp [tickClocks, present, here]
  | false =>
    have advanced := object?_advanced present
    have alike := fireDue_alike id (Clock.due object.advanceClocks.clocks) scheduler
      (world.modifyObject id MapObject.advanceClocks)
    obtain ⟨fired, scheduled, _⟩ := fireDue_served id (Clock.due object.advanceClocks.clocks)
      scheduler (world.modifyObject id MapObject.advanceClocks)
    rw [tickClocks_eq scheduler present here]
    generalize fireDue id _ scheduler _ = outcome at alike fired scheduled ⊢
    obtain ⟨_, ⟨runs, started⟩, _⟩ := deliverDue_started scheduler advanced
      ((Clock.due object.advanceClocks.clocks).take outcome.1.length)
    rw [← scheduled] at started
    obtain ⟨delivered, found, same⟩ := alike.object? advanced
    refine ⟨delivered.fireClocks outcome.1, runs, ?_, by rw [started.scheduler], .fires _
      (List.take_subset _ _) started.plays started.distinct ?_⟩
    · rw [World.object?_modifyObject, if_pos rfl, found]
      rfl
    · simp only [MapObject.standing, Prod.mk.injEq] at same ⊢
      rw [← fired]
      exact ⟨same.1, same.2.1, same.2.2.1, congrArg (Clock.fireAll · outcome.1) same.2.2.2⟩

theorem tickClocks_elsewhere {key : Nat} (apart : id ≠ key) (scheduler : Scheduler Activity)
    (world : World) :
    ((tickClocks scheduler world key).2.object? id).map MapObject.standing =
        (world.object? id).map MapObject.standing ∧
      ∃ runs, (tickClocks scheduler world key).1.blocking = scheduler.blocking ++ runs ∧
        ∀ run ∈ runs, run.trigger.object ≠ some id := by
  cases present : world.object? key with
  | none => simp [tickClocks, present]
  | some other =>
    obtain ⟨later, runs, _, grown, ticked⟩ := tickClocks_ticked scheduler present
    refine ⟨?_, runs, grown, fun run member bound => ?_⟩
    · cases here : other.removed with
      | true => simp [tickClocks, present, here]
      | false =>
        have same := fireDue_alike key (Clock.due other.advanceClocks.clocks) scheduler
          (world.modifyObject key MapObject.advanceClocks) id
        rw [World.object?_modifyObject, if_neg apart] at same
        rw [tickClocks_eq scheduler present here, World.object?_modifyObject, if_neg apart]
        exact same
    · exact apart (Option.some.inj (bound.symm.trans (ticked.own run member)))

theorem tickAll_elsewhere {ids : List Nat} (apart : id ∉ ids)
    (state : Scheduler Activity × World) :
    ((tickAll ids state).2.object? id).map MapObject.standing =
        (state.2.object? id).map MapObject.standing ∧
      ∃ runs, (tickAll ids state).1.blocking = state.1.blocking ++ runs ∧
        ∀ run ∈ runs, run.trigger.object ≠ some id := by
  induction ids generalizing state with
  | nil => exact ⟨rfl, [], (List.append_nil _).symm, fun _ none => nomatch none⟩
  | cons key rest ih =>
    obtain ⟨here, later⟩ := not_or.mp (mt List.mem_cons.mpr apart)
    obtain ⟨same, runs, grown, others⟩ := tickClocks_elsewhere here state.1 state.2
    obtain ⟨same', more, grown', others'⟩ := ih later (tickClocks state.1 state.2 key)
    refine ⟨same'.trans same, runs ++ more, ?_, List.forall_mem_append.mpr ⟨others, others'⟩⟩
    rw [← List.append_assoc, ← grown]
    exact grown'

def clockStarts (scheduler : Scheduler Activity) (world : World) : List (Run Activity) :=
  (fireTimeEvents scheduler world).1.blocking.drop scheduler.blocking.length

theorem clockStarts_eq {scheduler : Scheduler Activity} {world : World} {runs : List (Run Activity)}
    (grown : (fireTimeEvents scheduler world).1.blocking = scheduler.blocking ++ runs) :
    clockStarts scheduler world = runs := by
  rw [clockStarts, grown, List.drop_left]

theorem filter_bound_eq_nil {runs : List (Run Activity)}
    (others : ∀ run ∈ runs, run.trigger.object ≠ some id) :
    runs.filter (·.trigger.object == some id) = [] :=
  List.filter_eq_nil_iff.mpr fun run member => by simpa using others run member

theorem clockStarts_absent (scheduler : Scheduler Activity) {world : World}
    (absent : world.object? id = none) :
    (fireTimeEvents scheduler world).2.object? id = none ∧
      (clockStarts scheduler world).filter (·.trigger.object == some id) = [] := by
  have apart : id ∉ world.objects.ids := by
    intro listed
    obtain ⟨entry, member, same⟩ := List.mem_map.mp listed
    have unknown := List.find?_eq_none.mp (Option.map_eq_none_iff.mp absent) entry member
    exact unknown (by simpa using same)
  obtain ⟨same, runs, grown, others⟩ := tickAll_elsewhere apart (scheduler, world)
  rw [clockStarts_eq grown, filter_bound_eq_nil others]
  rw [absent] at same
  exact ⟨Option.map_eq_none_iff.mp same, rfl⟩

theorem clockStarts_ticked (scheduler : Scheduler Activity) {world : World}
    (present : world.object? id = some object) :
    ∃ later, (fireTimeEvents scheduler world).2.object? id = some later ∧
      Ticked id object later
        ((clockStarts scheduler world).filter (·.trigger.object == some id)) := by
  have listed : id ∈ world.objects.ids := by
    obtain ⟨entry, found, _⟩ := Option.map_eq_some_iff.mp present
    have same : (entry.1 == id) = true := by simpa using List.find?_some found
    rw [← eq_of_beq same]
    exact List.mem_map_of_mem (List.mem_of_find?_eq_some found)
  obtain ⟨before, after, order⟩ := List.append_of_mem listed
  have once : world.objects.ids.Pairwise (· < ·) := List.pairwise_map.mpr world.objects.ascending
  rw [order, List.pairwise_append, List.pairwise_cons] at once
  have earlier : id ∉ before := fun member =>
    Nat.lt_irrefl id (once.2.2 id member id List.mem_cons_self)
  have later : id ∉ after := fun member => Nat.lt_irrefl id (once.2.1.1 id member)
  -- The objects before and after this one keep it as it is and start nothing for it.
  obtain ⟨same, first, grown, others⟩ := tickAll_elsewhere earlier (scheduler, world)
  generalize reached : tickAll before (scheduler, world) = state at same grown
  rw [present] at same
  obtain ⟨held, found, same⟩ := Option.map_eq_some_iff.mp same
  obtain ⟨left, own, present', grown', ticked⟩ := tickClocks_ticked state.1 found
  obtain ⟨same', last, grown'', others'⟩ := tickAll_elsewhere later (tickClocks state.1 state.2 id)
  rw [present'] at same'
  obtain ⟨final, found', same'⟩ := Option.map_eq_some_iff.mp same'
  have split : fireTimeEvents scheduler world = tickAll after (tickClocks state.1 state.2 id) := by
    unfold fireTimeEvents
    rw [order, List.foldl_append, ← reached]
    rfl
  have starts : clockStarts scheduler world = first ++ own ++ last := by
    apply clockStarts_eq
    rw [split, grown'', grown', grown]
    simp only [List.append_assoc]
  refine ⟨final, by rw [split, found'], ?_⟩
  rw [starts, List.filter_append, List.filter_append, filter_bound_eq_nil others,
    filter_bound_eq_nil others', List.append_nil, List.nil_append,
    List.filter_eq_self.mpr fun run member => by simpa using ticked.own run member]
  exact ticked.congr same.symm same'

end TileScript.MapScene
