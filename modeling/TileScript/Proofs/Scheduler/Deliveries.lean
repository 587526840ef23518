import TileScript.Proofs.Scheduler.Orderly

namespace TileScript

structure Delivery.Unseen {α : Type} (view : MapObject → α) : Prop where
  hold : ∀ object, view object.hold = view object
  mark : ∀ object orientation,
    view { object with orientation := orientation, receivedEvent := true } = view object

namespace World

def Alike {α : Type} (view : MapObject → α) (before after : World) : Prop :=
  ∀ id, (after.object? id).map view = (before.object? id).map view

namespace Alike

variable {α : Type} {view : MapObject → α}

theorem refl (world : World) : Alike view world world := fun _ => rfl

theorem trans {first second third : World} (one : Alike view first second)
    (two : Alike view second third) : Alike view first third :=
  fun id => (two id).trans (one id)

theorem modifyObject (world : World) (key : Nat) {change : MapObject → MapObject}
    (quiet : ∀ object, view (change object) = view object) :
    Alike view world (world.modifyObject key change) := by
  intro id
  rw [object?_modifyObject]
  split
  · rw [Option.map_map]
    exact congrArg (Option.map · _) (funext quiet)
  · rfl

theorem keeps {before after : World} (alike : Alike view before after) :
    Keeps view before after := by
  intro id object present
  have same := alike id
  rw [present] at same
  obtain ⟨earlier, found, shows⟩ := Option.map_eq_some_iff.mp same.symm
  exact ⟨earlier, found, shows.symm⟩

theorem object? {before after : World} (alike : Alike view before after) {id : Nat}
    {object : MapObject} (present : before.object? id = some object) :
    ∃ later, after.object? id = some later ∧ view later = view object := by
  have same := alike id
  rw [present] at same
  exact Option.map_eq_some_iff.mp same

end Alike

end World

open World (Alike)

namespace Scheduler

variable {σ : Type}

section Alike

variable {α : Type} {view : MapObject → α} (unseen : Delivery.Unseen view)

include unseen

theorem mark_alike (world : World) (key : Nat) (senderPosition : Option Position) :
    Alike view world (world.modifyObject key (Delivery.mark senderPosition)) := by
  refine .modifyObject world key fun object => ?_
  obtain ⟨orientation, same⟩ := Delivery.mark_eq senderPosition object
  rw [same]
  exact unseen.mark object orientation

theorem add?_alike {scheduler : Scheduler σ} {world : World} {reaction : Reaction}
    {trigger : Trigger} {moving : Bool} {started : Scheduler σ × World}
    (added : scheduler.add? world reaction trigger moving = some started) :
    Alike view world started.2 := by
  obtain ⟨_, _, _, _, ⟨_, same⟩ | ⟨_, _, id, _, same⟩⟩ := add?_some added
  · rw [same]
    exact .refl world
  · rw [same]
    exact .modifyObject world id unseen.hold

theorem startEach_alike (delivery : Delivery) (senderPosition : Option Position) (single : Bool)
    (candidates : List (Nat × Reaction)) (scheduler : Scheduler σ) (world : World) :
    Alike view world
      (startEach delivery senderPosition single candidates scheduler world).2.2 := by
  induction candidates generalizing scheduler world with
  | nil => exact .refl world
  | cons candidate rest ih =>
    obtain ⟨state, reaction⟩ := candidate
    rw [startEach]
    split
    · exact ih scheduler world
    · rename_i started held added
      have marked := (add?_alike unseen added).trans
        (mark_alike unseen held delivery.target senderPosition)
      dsimp only
      split
      · exact marked
      · exact marked.trans (ih started _)

theorem receive_alike (scheduler : Scheduler σ) (world : World) (delivery : Delivery) :
    Alike view world (scheduler.receive world delivery).2.2 := by
  unfold receive
  split
  · exact .refl world
  · split
    · exact startEach_alike unseen _ _ _ _ scheduler world
    · exact .refl world

theorem deliverTo_alike (request : EventRequest) (targets : List Nat) (scheduler : Scheduler σ)
    (world : World) : Alike view world (deliverTo request targets scheduler world).2.2 := by
  induction targets generalizing scheduler world with
  | nil => exact .refl world
  | cons target rest ih => exact (receive_alike unseen scheduler world _).trans (ih _ _)

theorem deliverAll_alike (requests : List EventRequest) (scheduler : Scheduler σ) (world : World) :
    Alike view world (deliverAll requests scheduler world).2 := by
  induction requests generalizing scheduler world with
  | nil => exact .refl world
  | cons request rest ih =>
    exact (deliverTo_alike unseen request _ scheduler world).trans (ih _ _)

theorem commit_alike (scheduler : Scheduler σ) (stage : Stage) :
    Alike view stage.world (scheduler.commit stage).2 :=
  deliverAll_alike unseen _ _ stage.world

end Alike

theorem add?_none {scheduler : Scheduler σ} {world : World} {reaction : Reaction}
    {trigger : Trigger} {moving : Bool}
    (refused : scheduler.add? world reaction trigger moving = none) :
    reaction.isEmpty = true ∨ scheduler.isRunning trigger.object reaction = true := by
  unfold add? at refused
  split at refused
  · rename_i busy
    simpa using busy
  · dsimp only at refused
    split at refused <;> cases refused

structure Started (offers : List (Reaction × Trigger)) (before after : Scheduler σ)
    (runs : List (Run σ)) : Prop where
  scheduler : after = { before with blocking := before.blocking ++ runs }
  plays : ∀ run ∈ runs, (run.reaction, run.trigger) ∈ offers
  fresh : ∀ run ∈ runs, run.reaction.isEmpty = false ∧
    before.isRunning run.trigger.object run.reaction = false
  distinct : (runs.map Run.key).Nodup

namespace Started

variable {offers wider : List (Reaction × Trigger)} {first second third : Scheduler σ}
  {runs more : List (Run σ)}

theorem none (offers : List (Reaction × Trigger)) (scheduler : Scheduler σ) :
    Started offers scheduler scheduler [] where
  scheduler := by rw [List.append_nil]
  plays _ member := nomatch member
  fresh _ member := nomatch member
  distinct := .nil

theorem isRunning_iff (started : Started offers first second runs) {object : Option Nat}
    {reaction : Reaction} :
    second.isRunning object reaction = true ↔ first.isRunning object reaction = true ∨
      ∃ run ∈ runs, run.trigger.object = object ∧ run.reaction.origin = reaction.origin := by
  rw [started.scheduler]
  simp [isRunning, List.any_append]

theorem trans (one : Started offers first second runs) (two : Started offers second third more) :
    Started offers first third (runs ++ more) where
  scheduler := by rw [two.scheduler, one.scheduler, List.append_assoc]
  plays := List.forall_mem_append.mpr ⟨one.plays, two.plays⟩
  fresh := by
    refine List.forall_mem_append.mpr ⟨one.fresh, fun run member => ?_⟩
    obtain ⟨commands, idle⟩ := two.fresh run member
    refine ⟨commands, Bool.eq_false_iff.mpr fun busy => ?_⟩
    rw [one.isRunning_iff.mpr (.inl busy)] at idle
    cases idle
  distinct := by
    rw [List.map_append, List.nodup_append]
    refine ⟨one.distinct, two.distinct, ?_⟩
    rintro _ here _ there rfl
    obtain ⟨run, member, same⟩ := List.mem_map.mp here
    obtain ⟨other, later, rfl⟩ := List.mem_map.mp there
    obtain ⟨object, origin⟩ := Prod.mk.inj same
    have idle := (two.fresh other later).2
    rw [one.isRunning_iff.mpr (.inr ⟨run, member, object, origin⟩)] at idle
    cases idle

theorem mono (started : Started offers first second runs)
    (embed : ∀ offer ∈ offers, offer ∈ wider) : Started wider first second runs where
  scheduler := started.scheduler
  plays run member := embed _ (started.plays run member)
  fresh := started.fresh
  distinct := started.distinct

theorem of_add? {world : World} {reaction : Reaction} {trigger : Trigger}
    {begun : Scheduler σ × World}
    (added : first.add? world reaction trigger false = some begun) :
    ∃ run, Started [(reaction, trigger)] first begun.1 [run] := by
  obtain ⟨commands, idle, held, same, _⟩ := add?_some added
  exact ⟨_, same, List.forall_mem_singleton.mpr (List.mem_singleton_self _),
    List.forall_mem_singleton.mpr ⟨commands, idle⟩, List.pairwise_singleton _ _⟩

theorem boundElsewhere_eq (started : Started offers first second runs) {target : Nat}
    (own : ∀ offer ∈ offers, offer.2.object = some target) (sender : Option Nat) :
    second.boundElsewhere target sender = first.boundElsewhere target sender := by
  have idle : runs.any (fun run => !run.moving && run.trigger.object != some target &&
      run.trigger.object != sender) = false := by
    refine List.any_eq_false.mpr fun run member => ?_
    have bound : run.trigger.object = some target := own _ (started.plays run member)
    simp [bound]
  rw [started.scheduler]
  simp only [boundElsewhere, Scheduler.runs, List.any_append, idle, Bool.or_false]

end Started

end Scheduler

def Delivery.offers (delivery : Delivery) (object : MapObject) : List (Reaction × Trigger) :=
  (delivery.candidates object).map (fun candidate =>
    (candidate.2, delivery.trigger candidate.1))

theorem Delivery.mem_offers {delivery : Delivery} {object : MapObject} {reaction : Reaction}
    {trigger : Trigger} (offered : (reaction, trigger) ∈ delivery.offers object) :
    ∃ state ∈ object.states, ∃ handler ∈ object.model.handlers,
      handler.answers delivery.system delivery.event delivery.parameters = true ∧
      handler.reactions.get? state = some reaction ∧ trigger = delivery.trigger state := by
  obtain ⟨⟨state, candidate⟩, listed, same⟩ := List.mem_map.mp offered
  cases same
  obtain ⟨_, active, bound⟩ := List.mem_flatMap.mp listed
  obtain ⟨_, reacts, same⟩ := List.mem_map.mp bound
  cases same
  obtain ⟨handler, known, reaction⟩ := List.mem_filterMap.mp reacts
  obtain ⟨declared, answers⟩ := List.mem_filter.mp known
  exact ⟨state, active, handler, declared, answers, reaction, rfl⟩

theorem Delivery.object_of_mem_offers {delivery : Delivery} {object : MapObject}
    {offer : Reaction × Trigger} (offered : offer ∈ delivery.offers object) :
    offer.2.object = some delivery.target := by
  obtain ⟨candidate, _, rfl⟩ := List.mem_map.mp offered
  rfl

namespace Scheduler

/-- When an event has been delivered, some of its candidates have been started, and unless one is
enough all of them are running. -/
theorem startEach_started (delivery : Delivery) (senderPosition : Option Position) (single : Bool)
    (candidates : List (Nat × Reaction)) (scheduler : Scheduler σ) (world : World) :
    let outcome := startEach delivery senderPosition single candidates scheduler world
    ∃ runs, Started (candidates.map fun candidate => (candidate.2, delivery.trigger candidate.1))
        scheduler outcome.2.1 runs ∧
      (outcome.1 = true ↔ runs ≠ []) ∧
      (single = false → ∀ candidate ∈ candidates, candidate.2.isEmpty = false →
        outcome.2.1.isRunning (some delivery.target) candidate.2 = true) := by
  induction candidates generalizing scheduler world with
  | nil =>
    refine ⟨[], .none _ _, ?_, fun _ _ member => nomatch member⟩
    exact iff_of_false Bool.false_ne_true (fun some => some rfl)
  | cons candidate rest ih =>
    obtain ⟨state, reaction⟩ := candidate
    rw [startEach]
    split
    · rename_i refused
      obtain ⟨runs, started, any, running⟩ := ih scheduler world
      refine ⟨runs, started.mono fun _ => List.mem_cons_of_mem _, any, fun many => ?_⟩
      refine List.forall_mem_cons.mpr ⟨fun commands => ?_, running many⟩
      rcases add?_none refused with empty | busy
      · rw [commands] at empty
        cases empty
      · exact started.isRunning_iff.mpr (.inl busy)
    · rename_i begun held added
      obtain ⟨run, only⟩ := Started.of_add? added
      have first := only.mono (List.forall_mem_singleton.mpr (List.mem_cons_self
        (l := rest.map fun candidate => (candidate.2, delivery.trigger candidate.1))))
      dsimp only
      split
      · rename_i one
        refine ⟨[run], first, ?_, fun many => ?_⟩
        · exact iff_of_true rfl (List.cons_ne_nil _ _)
        · rw [one] at many
          cases many
      · obtain ⟨runs, started, _, running⟩ := ih begun
          (held.modifyObject delivery.target (Delivery.mark senderPosition))
        refine ⟨[run] ++ runs, first.trans (started.mono fun _ => List.mem_cons_of_mem _), ?_,
          fun many => ?_⟩
        · exact iff_of_true rfl (List.cons_ne_nil _ _)
        · refine List.forall_mem_cons.mpr ⟨fun _ => ?_, running many⟩
          have plays := List.mem_singleton.mp (only.plays run (List.mem_singleton_self _))
          refine started.isRunning_iff.mpr (.inl (first.isRunning_iff.mpr (.inr ?_)))
          exact ⟨run, List.mem_singleton_self _, congrArg (·.2.object) plays,
            congrArg (·.1.origin) plays⟩

theorem receive_started (scheduler : Scheduler σ) {world : World} (delivery : Delivery)
    {object : MapObject} (present : world.object? delivery.target = some object) :
    let outcome := scheduler.receive world delivery
    ∃ runs, Started (delivery.offers object) scheduler outcome.2.1 runs ∧
      (outcome.1 = true ↔ runs ≠ []) ∧
      (outcome.1 = true → scheduler.admits delivery object = true) ∧
      (scheduler.admits delivery object = true → object.model.oneEventPerFrame = false →
        ∀ offer ∈ delivery.offers object, offer.1.isEmpty = false →
          outcome.2.1.isRunning (some delivery.target) offer.1 = true) := by
  dsimp only [receive]
  rw [present]
  dsimp only
  split
  · rename_i admitted
    obtain ⟨runs, started, any, running⟩ := startEach_started delivery
      (delivery.senderPosition? world) object.model.oneEventPerFrame (delivery.candidates object)
      scheduler world
    refine ⟨runs, started, any, fun _ => admitted, fun _ many offer offered => ?_⟩
    obtain ⟨candidate, listed, rfl⟩ := List.mem_map.mp offered
    exact running many candidate listed
  · rename_i refused
    refine ⟨[], .none _ _, ?_, fun any => (nomatch any), fun admitted => absurd admitted refused⟩
    exact iff_of_false Bool.false_ne_true (fun some => some rfl)

theorem receive_refused {scheduler : Scheduler σ} {world : World} {delivery : Delivery}
    (refused : (scheduler.receive world delivery).1 = false) :
    (scheduler.receive world delivery).2.1 = scheduler := by
  cases present : world.object? delivery.target with
  | none => simp only [receive, present]
  | some object =>
    obtain ⟨runs, started, any, _⟩ := receive_started scheduler delivery present
    cases runs with
    | nil => rw [started.scheduler, List.append_nil]
    | cons run more =>
      rw [any.mpr (List.cons_ne_nil run more)] at refused
      cases refused

end Scheduler

end TileScript
