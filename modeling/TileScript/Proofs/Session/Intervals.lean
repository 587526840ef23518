import TileScript.Proofs.Object.Clocks
import TileScript.Proofs.Scene.ClockStarts
import TileScript.Proofs.Scene.Routes
import TileScript.Proofs.Session.Ground

namespace TileScript

open World (Keeps)

namespace Handler

def isTimed (handler : Handler) : Bool := handler.system && handler.event == timeEvent

def timeParameters (handler : Handler) : List Value := handler.filters.map (·.getD default)

def clock (handler : Handler) : Clock := Clock.ofParameters handler.timeParameters

end Handler

theorem ObjectModel.clocks_eq (model : ObjectModel) :
    model.clocks = (model.handlers.filter Handler.isTimed).map Handler.clock := rfl

structure ObjectModel.Apart (model : ObjectModel) (index : Nat) (handler : Handler) : Prop where
  bound : model.handlers[index]? = some handler
  others : ∀ place other, model.handlers[place]? = some other → place ≠ index →
    other.isTimed = true → handler.answers true timeEvent other.timeParameters = false

namespace ObjectModel.Apart

variable {model : ObjectModel} {index : Nat} {handler : Handler}
  (apart : model.Apart index handler)

include apart

theorem clock_eq {clock : Clock} (listed : clock ∈ model.clocks)
    (answers : handler.answers true timeEvent clock.parameters = true) : clock = handler.clock := by
  rw [model.clocks_eq] at listed
  obtain ⟨other, member, rfl⟩ := List.mem_map.mp listed
  obtain ⟨declared, timed⟩ := List.mem_filter.mp member
  obtain ⟨place, found⟩ := List.getElem?_of_mem declared
  by_cases same : place = index
  · subst same
    cases apart.bound.symm.trans found
    rfl
  · have silent := apart.others place other found same timed
    exact absurd answers (Bool.eq_false_iff.mp silent)

theorem countP_clocks :
    (model.clocks.map Clock.make).countP
      (fun make => handler.answers true timeEvent make.2.2) ≤ 1 := by
  obtain ⟨within, found⟩ := List.getElem?_eq_some_iff.mp apart.bound
  have split : model.handlers =
      model.handlers.take index ++ handler :: model.handlers.drop (index + 1) := by
    rw [← found, ← List.drop_eq_getElem_cons within, List.take_append_drop]
  have silent (others : List Handler)
      (elsewhere : ∀ other ∈ others, ∃ place, model.handlers[place]? = some other ∧ place ≠ index) :
      ((others.filter Handler.isTimed).map Handler.clock).countP
        (fun clock => handler.answers true timeEvent clock.parameters) = 0 := by
    refine List.countP_eq_zero.mpr fun clock member => ?_
    obtain ⟨other, listed, rfl⟩ := List.mem_map.mp member
    obtain ⟨declared, timed⟩ := List.mem_filter.mp listed
    obtain ⟨place, here, different⟩ := elsewhere other declared
    exact Bool.eq_false_iff.mp (apart.others place other here different timed)
  have front := silent (model.handlers.take index) fun other member => by
    obtain ⟨place, here⟩ := List.getElem?_of_mem member
    rw [List.getElem?_take] at here
    obtain ⟨below, here⟩ := Option.ite_none_right_eq_some.mp here
    exact ⟨place, here, Nat.ne_of_lt below⟩
  have back := silent (model.handlers.drop (index + 1)) fun other member => by
    obtain ⟨place, here⟩ := List.getElem?_of_mem member
    rw [List.getElem?_drop] at here
    exact ⟨_, here, by omega⟩
  rw [model.clocks_eq, List.countP_map, split, List.filter_append, List.map_append,
    List.countP_append]
  change List.countP (fun clock : Clock => handler.answers true timeEvent clock.parameters) _ +
    List.countP (fun clock : Clock => handler.answers true timeEvent clock.parameters) _ ≤ 1
  rw [front, Nat.zero_add, List.filter_cons]
  split
  · rw [List.map_cons, List.countP_cons, back]
    split <;> omega
  · rw [back]
    omega

end ObjectModel.Apart

def MapObject.timing (object : MapObject) : ObjectModel × List Clock :=
  (object.model, object.clocks)

theorem MapObject.unseen_timing : Delivery.Unseen MapObject.timing :=
  ⟨fun _ => rfl, fun _ _ => rfl⟩

section Keeps

namespace MapScene

theorem heroAction_timing (scheduler : Scheduler Activity) (world : World) :
    Keeps MapObject.timing world (heroAction scheduler world).2 := by
  unfold heroAction
  split
  · exact .refl world
  · rename_i hero _
    have all (targets : List Nat) (state : Scheduler Activity × World) :
        Keeps MapObject.timing state.2 (targets.foldl (fun state target =>
          (state.1.receive state.2 ⟨some hero.id, target, true, actionEvent, []⟩).2) state).2 := by
      induction targets generalizing state with
      | nil => exact .refl state.2
      | cons target rest ih =>
        exact (Scheduler.receive_alike MapObject.unseen_timing state.1 state.2 _).keeps.trans (ih _)
    exact all _ (scheduler, world)

theorem listen_timing (scene : MapScene) (event : InputEvent) (world : World) :
    Keeps MapObject.timing world (scene.listen event world).2 := by
  unfold listen
  dsimp only
  split
  · exact heroAction_timing _ world
  · exact .refl world

end MapScene

end Keeps

inductive MapScene.Step where
  | update (input : InputSnapshot)
  | listen (event : InputEvent)

/-- The updates, counted from `now`, in which the clocks start the reaction of an origin for an
object. -/
def MapScene.startTimes (id : Nat) (origin : Origin) :
    Nat → List Step → MapScene → World → List Nat
  | _, [], _, _ => []
  | now, .update input :: rest, scene, world =>
    let runs := (clockStarts scene.scheduler world).filter (fun run =>
      run.reaction.origin == origin && run.trigger.object == some id)
    let updated := (scene.update input world).2
    runs.map (fun _ => now) ++ startTimes id origin (now + 1) rest updated.1 updated.2
  | now, .listen event :: rest, scene, world =>
    let heard := scene.listen event world
    startTimes id origin now rest heard.1 heard.2

def Handler.Spaced (handler : Handler) (earlier later : Nat) : Prop :=
  handler.clock.repeats = true ∧ earlier + handler.clock.interval ≤ later

/-- The clocks that are left of those the object was declared with. Each that the handler answers
repeats, if there has been a start, and has been counting anew since. -/
structure MapObject.Waiting (object : MapObject) (declared : ObjectModel) (handler : Handler)
    (starts : List Nat) (now : Nat) : Prop where
  model : object.model = declared
  clocks : (object.clocks.map Clock.make).Sublist (declared.clocks.map Clock.make)
  waited : ∀ clock ∈ object.clocks, handler.answers true timeEvent clock.parameters = true →
    ∀ start ∈ starts, clock.repeats = true ∧ start + clock.elapsed < now

structure World.Punctual (id : Nat) (declared : ObjectModel) (handler : Handler)
    (starts : List Nat) (now : Nat) (world : World) : Prop where
  spaced : starts.Pairwise handler.Spaced
  past : ∀ start ∈ starts, start < now
  waiting : ∀ object, world.object? id = some object →
    object.Waiting declared handler starts now

section Punctual

variable {id now index state : Nat} {model : ObjectModel} {handler : Handler} {starts : List Nat}
  {reaction : Reaction} {world : World} {object later : MapObject}

theorem MapObject.Waiting.congr (waiting : object.Waiting model handler starts now)
    (same : later.timing = object.timing) : later.Waiting model handler starts now := by
  obtain ⟨cast, clocks⟩ := Prod.mk.inj same
  refine ⟨cast.trans waiting.model, ?_, ?_⟩
  · rw [clocks]
    exact waiting.clocks
  · rw [clocks]
    exact waiting.waited

theorem World.Punctual.of_keeps (punctual : world.Punctual id model handler starts now)
    {after : World} (keeps : Keeps MapObject.timing world after) :
    after.Punctual id model handler starts now where
  spaced := punctual.spaced
  past := punctual.past
  waiting object present := by
    obtain ⟨earlier, found, same⟩ := keeps id object present
    exact (punctual.waiting earlier found).congr same

theorem MapObject.Waiting.advanced_makes (waiting : object.Waiting model handler starts now)
    (indices : List Nat) :
    ((Clock.fireAll (object.clocks.map Clock.advance) indices).map Clock.make).Sublist
      (model.clocks.map Clock.make) := by
  refine (Clock.fireAll_makes _ indices).trans ?_
  rw [List.map_map]
  exact waiting.clocks

theorem MapObject.Waiting.counts (waiting : object.Waiting model handler starts now)
    {clock : Clock} (member : clock ∈ object.clocks.map Clock.advance)
    (answers : handler.answers true timeEvent clock.parameters = true) :
    ∀ start ∈ starts, clock.repeats = true ∧ start + clock.elapsed ≤ now := by
  intro start among
  obtain ⟨before, known, rfl⟩ := List.mem_map.mp member
  obtain ⟨repeats, waited⟩ := waiting.waited before known answers start among
  refine ⟨repeats, ?_⟩
  have counted : before.advance.elapsed ≤ before.elapsed + 1 := Nat.min_le_left _ _
  omega

theorem MapObject.Waiting.idle (waiting : object.Waiting model handler starts now)
    (past : ∀ start ∈ starts, start < now) {runs : List (Run Activity)}
    (ticked : MapScene.Ticked id object later runs) :
    later.Waiting model handler starts (now + 1) := by
  cases ticked with
  | rests gone same idle =>
    have kept := waiting.congr (congrArg (fun standing => (standing.1, standing.2.2.2)) same)
    refine ⟨kept.model, kept.clocks, fun clock member answers start among => ?_⟩
    obtain ⟨repeats, waited⟩ := kept.waited clock member answers start among
    exact ⟨repeats, Nat.lt_succ_of_lt waited⟩
  | fires clocks due plays distinct same =>
    simp only [MapObject.standing, Prod.mk.injEq] at same
    obtain ⟨cast, _, _, left⟩ := same
    refine ⟨cast.trans waiting.model, ?_, ?_⟩
    · rw [left]
      exact waiting.advanced_makes _
    · rw [left]
      intro clock member answers start among
      rcases Clock.mem_fireAll member with old | ⟨repeats, anew⟩
      · obtain ⟨repeats, waited⟩ := waiting.counts old answers start among
        exact ⟨repeats, Nat.lt_succ_of_le waited⟩
      · have before := past start among
        exact ⟨repeats, by omega⟩

/-- What is started of the handler is started by the event of its own clock. -/
theorem ObjectModel.Apart.rung (apart : model.Apart index handler) {owner : Owner}
    (located : model.Located owner) (reacts : handler.reactions.get? state = some reaction)
    (cast : object.model = model) {clocks : List (Nat × List Value)} {run : Run Activity}
    (offered : (run.reaction, run.trigger) ∈ MapScene.dueOffers id object clocks)
    (plays : run.reaction.origin = reaction.origin) :
    ∃ entry ∈ clocks, handler.answers true timeEvent entry.2 = true := by
  obtain ⟨entry, member, offered⟩ := List.mem_flatMap.mp offered
  obtain ⟨played, _, other, known, answers, bound, _⟩ := Delivery.mem_offers offered
  rw [cast] at known
  obtain ⟨place, found⟩ := List.getElem?_of_mem known
  have declared := located place other played run.reaction found bound
  rw [plays, located index handler state reaction apart.bound reacts] at declared
  cases declared
  cases apart.bound.symm.trans found
  exact ⟨entry, member, answers⟩

/-- A clock of the object that the handler answers is its own, but for how far it has come. -/
theorem MapObject.Waiting.make_eq (waiting : object.Waiting model handler starts now)
    (apart : model.Apart index handler) {clock : Clock}
    (member : clock ∈ object.clocks.map Clock.advance)
    (answers : handler.answers true timeEvent clock.parameters = true) :
    clock.make = handler.clock.make := by
  have kept : clock.make ∈ model.clocks.map Clock.make := by
    refine waiting.clocks.subset ?_
    obtain ⟨before, known, rfl⟩ := List.mem_map.mp member
    exact List.mem_map.mpr ⟨before, known, rfl⟩
  obtain ⟨first, declared, same⟩ := List.mem_map.mp kept
  have heard : handler.answers true timeEvent first.parameters = true := by
    rw [show first.parameters = clock.parameters from congrArg (·.2.2) same]
    exact answers
  rw [← same, apart.clock_eq declared heard]

/-- If the clocks start a reaction of the handler, its own clock is due, and starts over or goes. -/
theorem MapObject.Waiting.fired (waiting : object.Waiting model handler starts now)
    (apart : model.Apart index handler) {owner : Owner} (located : model.Located owner)
    (reacts : handler.reactions.get? state = some reaction) {runs : List (Run Activity)}
    (ticked : MapScene.Ticked id object later runs) {run : Run Activity} (member : run ∈ runs)
    (plays : run.reaction.origin = reaction.origin) :
    (∀ start ∈ starts, handler.Spaced start now) ∧ later.model = model ∧
      (later.clocks.map Clock.make).Sublist (model.clocks.map Clock.make) ∧
      ∀ clock ∈ later.clocks, handler.answers true timeEvent clock.parameters = true →
        clock.repeats = true ∧ clock.elapsed = 0 := by
  cases ticked with
  | rests _ _ idle =>
    rw [idle] at member
    cases member
  | fires clocks due offered distinct same =>
    simp only [MapObject.standing, Prod.mk.injEq] at same
    obtain ⟨cast, _, _, left⟩ := same
    obtain ⟨⟨place, parameters⟩, listed, answers⟩ :=
      apart.rung located reacts waiting.model (offered run member) plays
    obtain ⟨clock, found, isDue, rfl⟩ := Clock.mem_due (due listed)
    have counting : clock ∈ object.clocks.map Clock.advance := List.mem_of_getElem? found
    have own := waiting.make_eq apart counting answers
    have single : ((object.clocks.map Clock.advance).map Clock.make).countP
        (fun make => handler.answers true timeEvent make.2.2) ≤ 1 := by
      rw [List.map_map]
      exact Nat.le_trans waiting.clocks.countP_le apart.countP_clocks
    refine ⟨fun start among => ?_, cast.trans waiting.model, ?_, ?_⟩
    · obtain ⟨repeats, waited⟩ := waiting.counts counting answers start among
      obtain ⟨interval, again, _⟩ := Prod.mk.inj own |>.imp_right Prod.mk.inj
      have reached : clock.interval ≤ clock.elapsed := of_decide_eq_true isDue
      exact ⟨again ▸ repeats, by omega⟩
    · rw [left]
      exact waiting.advanced_makes _
    · rw [left]
      exact Clock.fireAll_spends found answers (List.mem_map_of_mem listed) single

theorem World.Punctual.idle (punctual : world.Punctual id model handler starts now) {after : World}
    (waiting : ∀ object, after.object? id = some object →
      object.Waiting model handler starts (now + 1)) :
    after.Punctual id model handler starts (now + 1) where
  spaced := punctual.spaced
  past start among := Nat.lt_succ_of_lt (punctual.past start among)
  waiting := waiting

theorem World.Punctual.start (punctual : world.Punctual id model handler starts now)
    (due : ∀ start ∈ starts, handler.Spaced start now) {after : World}
    (anew : ∀ object, after.object? id = some object → object.model = model ∧
      (object.clocks.map Clock.make).Sublist (model.clocks.map Clock.make) ∧
      ∀ clock ∈ object.clocks, handler.answers true timeEvent clock.parameters = true →
        clock.repeats = true ∧ clock.elapsed = 0) :
    after.Punctual id model handler (starts ++ [now]) (now + 1) := by
  have past : ∀ start ∈ starts ++ [now], start < now + 1 := by
    refine List.forall_mem_append.mpr ⟨fun start among => ?_, ?_⟩
    · exact Nat.lt_succ_of_lt (punctual.past start among)
    · exact List.forall_mem_singleton.mpr (Nat.lt_succ_self now)
  refine ⟨?_, past, fun object present => ?_⟩
  · refine List.pairwise_append.mpr ⟨punctual.spaced, List.pairwise_singleton _ _, ?_⟩
    intro start among last here
    cases List.mem_singleton.mp here
    exact due start among
  · obtain ⟨cast, clocks, reset⟩ := anew object present
    refine ⟨cast, clocks, fun clock member answers start among => ?_⟩
    obtain ⟨repeats, zero⟩ := reset clock member answers
    rw [zero]
    exact ⟨repeats, past start among⟩

/-- When the clocks of all objects tick, the reaction is started once at most, at its time. -/
theorem World.Punctual.fireTimeEvents (punctual : world.Punctual id model handler starts now)
    (apart : model.Apart index handler) {owner : Owner} (located : model.Located owner)
    (reacts : handler.reactions.get? state = some reaction) (scheduler : Scheduler Activity) :
    (MapScene.fireTimeEvents scheduler world).2.Punctual id model handler
      (starts ++ ((MapScene.clockStarts scheduler world).filter (fun run =>
        run.reaction.origin == reaction.origin && run.trigger.object == some id)).map fun _ => now)
      (now + 1) := by
  rw [← List.filter_filter]
  cases present : world.object? id with
  | none =>
    obtain ⟨absent, none⟩ := MapScene.clockStarts_absent scheduler present
    rw [none, List.filter_nil, List.map_nil, List.append_nil]
    refine punctual.idle fun object found => ?_
    rw [absent] at found
    cases found
  | some object =>
    have waiting := punctual.waiting object present
    obtain ⟨later, found, ticked⟩ := MapScene.clockStarts_ticked scheduler present
    have only (object : MapObject)
        (present : (MapScene.fireTimeEvents scheduler world).2.object? id = some object) :
        later = object := Option.some.inj (found.symm.trans present)
    generalize (MapScene.clockStarts scheduler world).filter
      (fun run => run.trigger.object == some id) = runs at ticked ⊢
    have few : (runs.filter (fun run => run.reaction.origin == reaction.origin)).length ≤ 1 := by
      refine length_le_one_of_alike
        (List.pairwise_map.mp (ticked.apart.sublist (List.filter_sublist.map Run.key))) ?_
      intro first here second there
      obtain ⟨here, origin⟩ := List.mem_filter.mp here
      obtain ⟨there, origin'⟩ := List.mem_filter.mp there
      exact Prod.ext ((ticked.own first here).trans (ticked.own second there).symm)
        ((eq_of_beq origin).trans (eq_of_beq origin').symm)
    match picked : runs.filter (fun run => run.reaction.origin == reaction.origin) with
    | [] =>
      rw [picked, List.map_nil, List.append_nil]
      exact punctual.idle fun object present =>
        only object present ▸ waiting.idle punctual.past ticked
    | [run] =>
      obtain ⟨member, plays⟩ := List.mem_filter.mp (picked ▸ List.mem_singleton_self run)
      obtain ⟨due, anew⟩ := waiting.fired apart located reacts ticked member (eq_of_beq plays)
      rw [picked]
      exact punctual.start due fun object present => only object present ▸ anew
    | first :: second :: rest =>
      rw [picked, List.length_cons, List.length_cons] at few
      omega

theorem World.Punctual.lasting :
    Scheduler.Lasting (World.Punctual id model handler starts now) where
  torn run world punctual := punctual.of_keeps (run.tearDown_view (fun _ => rfl) world)
  committed scheduler stage punctual :=
    punctual.of_keeps (Scheduler.commit_alike MapObject.unseen_timing scheduler stage).keeps

theorem World.Punctual.update (punctual : world.Punctual id model handler starts now)
    (apart : model.Apart index handler) {owner : Owner} (located : model.Located owner)
    (reacts : handler.reactions.get? state = some reaction) (scene : MapScene)
    (input : InputSnapshot) :
    (scene.update input world).2.2.Punctual id model handler
      (starts ++ ((MapScene.clockStarts scene.scheduler world).filter (fun run =>
        run.reaction.origin == reaction.origin && run.trigger.object == some id)).map fun _ => now)
      (now + 1) := by
  refine scene.update_lasting World.Punctual.lasting input world ?_ ?_ ?_ ?_
  · exact fun turn _ punctual => punctual.of_keeps
      (turn.1.tick_keeps ⟨fun _ _ _ => rfl, fun _ _ => rfl, fun _ => rfl⟩ _ turn.2)
  · exact fun cooldown world punctual =>
      punctual.of_keeps (MapScene.moveHero_view (fun _ _ _ => rfl) cooldown input world)
  · exact fun world punctual => punctual.of_keeps (.endFrame world fun _ => rfl)
  · unfold MapScene.opened
    rw [MapScene.startRoutes_world]
    exact punctual.fireTimeEvents apart located reacts scene.scheduler

theorem World.Punctual.startTimes (punctual : world.Punctual id model handler starts now)
    (apart : model.Apart index handler) {owner : Owner} (located : model.Located owner)
    (reacts : handler.reactions.get? state = some reaction) (steps : List MapScene.Step)
    (scene : MapScene) :
    (starts ++ MapScene.startTimes id reaction.origin now steps scene world).Pairwise
      handler.Spaced := by
  -- Induction on what happens, with the starts so far: only an update adds to them.
  induction steps generalizing starts now scene world with
  | nil =>
    rw [MapScene.startTimes, List.append_nil]
    exact punctual.spaced
  | cons step rest ih =>
    cases step with
    | update input =>
      rw [MapScene.startTimes, ← List.append_assoc]
      exact ih (punctual.update apart located reacts scene input) _
    | listen event => exact ih (punctual.of_keeps (scene.listen_timing event world)) _

end Punctual

theorem MapScene.entered_clocks (scene : MapScene) {content : Database} (vars : IdMap Value) :
    ∀ id object, (scene.entered content vars).object? id = some object →
      object.clocks = object.model.clocks := by
  have loaded : ∀ id object, (scene.load { vars := vars, content := some content }).object? id =
      some object → object.clocks = object.model.clocks :=
    scene.load_holds (fun _ _ none => nomatch none) (fun _ wound => wound)
  exact fun id object present => loaded id object (World.object?_foldl_erase present)

theorem MapScene.entered_located {commons : Source} {maps : List Source} {content : Database}
    (compiled : Content.compile commons maps = .ok content) {scene : MapScene} {map : MapDef}
    (found : content.maps.get? scene.map = some map) (vars : IdMap Value) {id : Nat}
    {object : MapObject} (present : (scene.entered content vars).object? id = some object) :
    ∃ owner, object.model.Located owner := by
  obtain ⟨hero, placed⟩ := Content.compile_located compiled
  rcases scene.entered_objects found vars present with ⟨_, cast, _⟩ | ⟨declared, member, rfl⟩
  · exact ⟨.hero, cast ▸ hero⟩
  · exact placed scene.map map found declared member

/--
On a map of compiled content, consider a handler that answers the time event of no other handler of
its object. Whatever updates and input the map goes through, the clocks start a reaction of the
handler once in its interval if it repeats, and once at all if it does not.
-/
theorem timed_reactions_keep_interval {commons : Source} {maps : List Source} {content : Database}
    (compiled : Content.compile commons maps = .ok content) {scene : MapScene} {map : MapDef}
    (found : content.maps.get? scene.map = some map) (vars : IdMap Value) {id : Nat}
    {object : MapObject} (present : (scene.entered content vars).object? id = some object)
    {index : Nat} {handler : Handler} (bound : object.model.handlers[index]? = some handler)
    (others : ∀ place other, object.model.handlers[place]? = some other → place ≠ index →
      other.isTimed = true → handler.answers true timeEvent other.timeParameters = false)
    {state : Nat} {reaction : Reaction} (reacts : handler.reactions.get? state = some reaction)
    (steps : List MapScene.Step) :
    let starts := MapScene.startTimes id reaction.origin 0 steps scene (scene.entered content vars)
    (handler.clock.repeats = true → starts.Pairwise (fun earlier later =>
      earlier + handler.clock.interval ≤ later)) ∧
    (handler.clock.repeats = false → starts.length ≤ 1) := by
  obtain ⟨owner, located⟩ := MapScene.entered_located compiled found vars present
  have punctual : (scene.entered content vars).Punctual id object.model handler [] 0 := by
    refine ⟨.nil, fun _ none => (nomatch none), fun other here => ?_⟩
    cases present.symm.trans here
    refine ⟨rfl, ?_, fun _ _ _ _ none => (nomatch none)⟩
    rw [scene.entered_clocks vars id object present]
  have spaced := punctual.startTimes ⟨bound, others⟩ located reacts steps scene
  rw [List.nil_append] at spaced
  generalize MapScene.startTimes id reaction.origin 0 steps scene (scene.entered content vars) =
    starts at spaced ⊢
  refine ⟨fun _ => spaced.imp And.right, fun once => ?_⟩
  match starts, spaced with
  | [], _ => exact Nat.zero_le 1
  | [_], _ => exact Nat.le_refl 1
  | first :: second :: _, spaced =>
    have again := ((List.pairwise_cons.mp spaced).1 second List.mem_cons_self).1
    rw [once] at again
    cases again

def chimes : Source where
  path := "chimes.json"
  text := "[1,\"\",1,1,[0,0],\"up\",[[1,\"\",0,0,\"up\",false,false,true,null,[[1]],[" ++
    "[true,1,[2,false],[[1,true,[\x7b\"kind\":\"wait\",\"ticks\":0\x7d]]]]," ++
    "[true,1,[2,false],[[1,true,[\x7b\"kind\":\"wait\",\"ticks\":0\x7d]]]]," ++
    "[true,1,[3,true],[[1,true,[\x7b\"kind\":\"wait\",\"ticks\":0\x7d]]]]]]]]"

structure Ringing where
  timed : Bool
  alone : Bool
  interval : Nat
  repeats : Bool
  starts : List Nat
  deriving DecidableEq

def ringing (content : Database) (index : Nat) : Option Ringing := do
  let _ ← content.maps.get? 1
  let object ← (MapScene.entered { map := 1 } content ∅).object? 1
  let handler ← object.model.handlers[index]?
  let reaction ← handler.reactions.get? 1
  return {
    timed := handler.isTimed
    alone := object.model.handlers.zipIdx.all (fun entry => entry.2 == index || !entry.1.isTimed ||
      !handler.answers true timeEvent entry.1.timeParameters)
    interval := handler.clock.interval
    repeats := handler.clock.repeats
    starts := MapScene.startTimes 1 reaction.origin 0 (List.replicate 6 (.update {})) { map := 1 }
      (MapScene.entered { map := 1 } content ∅) }

theorem ringing_some {content : Database} {index : Nat} {rings : Ringing}
    (rung : ringing content index = some rings) :
    ∃ map object handler reaction, content.maps.get? 1 = some map ∧
      (MapScene.entered { map := 1 } content ∅).object? 1 = some object ∧
      object.model.handlers[index]? = some handler ∧ handler.isTimed = rings.timed ∧
      handler.reactions.get? 1 = some reaction ∧
      handler.clock.interval = rings.interval ∧ handler.clock.repeats = rings.repeats ∧
      MapScene.startTimes 1 reaction.origin 0 (List.replicate 6 (.update {})) { map := 1 }
        (MapScene.entered { map := 1 } content ∅) = rings.starts ∧
      (rings.alone = true → ∀ place other, object.model.handlers[place]? = some other →
        place ≠ index → other.isTimed = true →
          handler.answers true timeEvent other.timeParameters = false) := by
  obtain ⟨map, found, rung⟩ := Option.bind_eq_some_iff.mp rung
  obtain ⟨object, present, rung⟩ := Option.bind_eq_some_iff.mp rung
  obtain ⟨handler, bound, rung⟩ := Option.bind_eq_some_iff.mp rung
  obtain ⟨reaction, reacts, rung⟩ := Option.bind_eq_some_iff.mp rung
  cases rung
  refine ⟨map, object, handler, reaction, found, present, bound, rfl, reacts, rfl, rfl, rfl,
    fun apart place other listed different known => ?_⟩
  have silent := List.all_eq_true.mp apart _ (List.mk_mem_zipIdx_iff_getElem?.mpr listed)
  simpa [different, known] using silent

theorem chimes_ring :
    ∃ content, Content.compile heroAlone [chimes] = .ok content ∧
      ringing content 0 = some ⟨true, false, 2, false, [1, 2]⟩ ∧
      ringing content 2 = some ⟨true, true, 3, true, [2, 5]⟩ := by
  have rings : (Content.compile heroAlone [chimes]).toOption.any (fun content =>
      ringing content 0 = some ⟨true, false, 2, false, [1, 2]⟩ ∧
        ringing content 2 = some ⟨true, true, 3, true, [2, 5]⟩) = true := by
    decide +kernel
  cases compiled : Content.compile heroAlone [chimes] with
  | error problem =>
    rw [compiled] at rings
    cases rings
  | ok content =>
    rw [compiled] at rings
    exact ⟨content, rfl, of_decide_eq_true rings⟩

/-- Each of two clocks that are due together starts the reactions to both. The second finds them
running in the first update and starts them once more in the next. -/
theorem twin_chimes_ring_twice :
    ∃ content map object handler reaction, Content.compile heroAlone [chimes] = .ok content ∧
      content.maps.get? 1 = some map ∧
      (MapScene.entered { map := 1 } content ∅).object? 1 = some object ∧
      object.model.handlers[0]? = some handler ∧ handler.isTimed = true ∧
      handler.reactions.get? 1 = some reaction ∧
      handler.clock.interval = 2 ∧ handler.clock.repeats = false ∧
      MapScene.startTimes 1 reaction.origin 0 (List.replicate 6 (.update {})) { map := 1 }
        (MapScene.entered { map := 1 } content ∅) = [1, 2] := by
  obtain ⟨content, compiled, rings, _⟩ := chimes_ring
  obtain ⟨map, object, handler, reaction, found, present, bound, timed, reacts, interval, once,
    starts, _⟩ := ringing_some rings
  exact ⟨content, map, object, handler, reaction, compiled, found, present, bound, timed, reacts,
    interval, once, starts⟩

theorem third_chime_keeps_time :
    ∃ content object handler reaction, Content.compile heroAlone [chimes] = .ok content ∧
      (MapScene.entered { map := 1 } content ∅).object? 1 = some object ∧
      object.model.handlers[2]? = some handler ∧ handler.reactions.get? 1 = some reaction ∧
      handler.clock.interval = 3 ∧
      MapScene.startTimes 1 reaction.origin 0 (List.replicate 6 (.update {})) { map := 1 }
        (MapScene.entered { map := 1 } content ∅) = [2, 5] ∧
      (MapScene.startTimes 1 reaction.origin 0 (List.replicate 6 (.update {})) { map := 1 }
        (MapScene.entered { map := 1 } content ∅)).Pairwise (fun earlier later =>
          earlier + handler.clock.interval ≤ later) := by
  obtain ⟨content, compiled, _, rings⟩ := chimes_ring
  obtain ⟨map, object, handler, reaction, found, present, bound, _, reacts, interval, again, starts,
    apart⟩ := ringing_some rings
  exact ⟨content, object, handler, reaction, compiled, present, bound, reacts, interval, starts,
    (timed_reactions_keep_interval compiled found ∅ present bound (apart rfl) reacts _).1 again⟩

end TileScript
