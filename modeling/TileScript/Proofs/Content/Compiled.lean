import Mathlib.Data.List.Forall2
import TileScript.Content.Compile
import TileScript.Proofs.Script.Checked
import TileScript.Proofs.World.Objects

namespace TileScript

theorem Except.bind_ok {ε α β : Type} {value : Except ε α} {next : α → Except ε β} {result : β}
    (done : value >>= next = .ok result) : ∃ input, value = .ok input ∧ next input = .ok result := by
  cases value with
  | error failure => cases done
  | ok input => exact ⟨input, rfl, done⟩

theorem Except.ok_bind {ε α β : Type} {value : Except ε α} {next : α → Except ε β} {input : α}
    (done : value = .ok input) : value >>= next = next input := by
  rw [done]
  rfl

theorem Except.mapM_ok {ε α β : Type} {action : α → Except ε β} {inputs : List α}
    {outputs : List β} (done : inputs.mapM action = .ok outputs) :
    List.Forall₂ (fun input output => action input = .ok output) inputs outputs := by
  induction inputs generalizing outputs with
  | nil =>
    rw [List.mapM_nil] at done
    cases done
    exact .nil
  | cons input inputs ih =>
    rw [List.mapM_cons] at done
    obtain ⟨first, here, done⟩ := Except.bind_ok done
    obtain ⟨others, rest, done⟩ := Except.bind_ok done
    cases done
    exact .cons here (ih rest)

theorem Except.input_of_mapM {ε α β : Type} {action : α → Except ε β} {inputs : List α}
    {outputs : List β} (done : inputs.mapM action = .ok outputs) {output : β}
    (member : output ∈ outputs) : ∃ input ∈ inputs, action input = .ok output := by
  obtain ⟨index, within, rfl⟩ := List.getElem_of_mem member
  have paired := Except.mapM_ok done
  have counted := paired.length_eq
  exact ⟨_, List.getElem_mem (by omega), paired.get (by omega) within⟩

theorem Except.output_of_mapM {ε α β : Type} {action : α → Except ε β} {inputs : List α}
    {outputs : List β} (done : inputs.mapM action = .ok outputs) {input : α}
    (member : input ∈ inputs) : ∃ output ∈ outputs, action input = .ok output := by
  obtain ⟨index, within, rfl⟩ := List.getElem_of_mem member
  have paired := Except.mapM_ok done
  have counted := paired.length_eq
  exact ⟨_, List.getElem_mem (by omega), paired.get within (by omega)⟩

theorem Except.getElem?_of_mapM {ε α β : Type} {action : α → Except ε β} {inputs : List α}
    {outputs : List β} (done : inputs.mapM action = .ok outputs) {index : Nat} {output : β}
    (found : outputs[index]? = some output) :
    ∃ input, inputs[index]? = some input ∧ action input = .ok output := by
  obtain ⟨within, rfl⟩ := List.getElem?_eq_some_iff.mp found
  have paired := Except.mapM_ok done
  have counted := paired.length_eq
  exact ⟨_, List.getElem?_eq_getElem (by omega), paired.get (by omega) within⟩

theorem Except.guard_ok {ε β : Type} {wrong : Prop} [Decidable wrong] {problem : ε}
    {next : Unit → Except ε β} {result : β}
    (done : (if wrong then (throw problem : Except ε Unit) >>= next else next ()) = .ok result) :
    ¬ wrong ∧ next () = .ok result := by
  split at done
  · cases done
  · rename_i right
    exact ⟨right, done⟩

def Reaction.Compiled (scope : Scope) (reaction : Reaction) : Prop :=
  ∃ entries, compileScript scope entries = .ok reaction.tree

structure ObjectModel.Compiled (scope : Scope) (model : ObjectModel) : Prop where
  handlers : ∀ handler ∈ model.handlers, ∀ state reaction,
    handler.reactions.get? state = some reaction → reaction.Compiled scope
  routes : ∀ state ∈ model.states, ∀ route, state.route = some route → route.Compiled scope

def ObjectModel.Located (owner : Owner) (model : ObjectModel) : Prop :=
  ∀ index (handler : Handler) state (reaction : Reaction), model.handlers[index]? = some handler →
    handler.reactions.get? state = some reaction → reaction.origin = .handler owner index state

structure MapDef.Bounded (map : MapDef) : Prop where
  hero : map.extent.contains map.heroStart = true
  placed : ∀ placed ∈ map.objects, map.extent.contains placed.position = true

structure Database.Compiled (scope : Scope) (content : Database) : Prop where
  commons : ∀ id ∈ scope.commons, ∃ reaction, content.commons.get? id = some reaction
  maps : ∀ id ∈ scope.maps, ∃ map, content.maps.get? id = some map
  mapIds : ∀ id map, content.maps.get? id = some map → map.id = id
  shared : ∀ id reaction, content.commons.get? id = some reaction → reaction.Compiled scope
  hero : content.hero.Compiled scope
  placed : ∀ id map, content.maps.get? id = some map →
    ∀ placed ∈ map.objects, placed.model.Compiled scope
  bounded : ∀ id map, content.maps.get? id = some map → map.Bounded

inductive Database.Plays (content : Database) (reaction : Reaction) : Prop where
  | shared (id : Nat) (found : content.commons.get? id = some reaction) : Plays content reaction
  | hero (plays : content.hero.Plays reaction) : Plays content reaction
  | placed (id : Nat) (map : MapDef) (found : content.maps.get? id = some map)
      (object : PlacedObject) (known : object ∈ map.objects) (plays : object.model.Plays reaction) :
      Plays content reaction

def Reaction.Sends (reaction : Reaction) (map : Nat) (position : Position) : Prop :=
  ∃ node orientation, reaction.tree.item? node = some (.teleport map position orientation)

section Plays

variable {scope : Scope} {content : Database} {model : ObjectModel} {reaction : Reaction}

theorem ObjectModel.Compiled.of_plays (compiled : model.Compiled scope)
    (plays : model.Plays reaction) : reaction.Compiled scope := by
  cases plays with
  | answer handler known state reacts => exact compiled.handlers handler known state reaction reacts
  | route state known route => exact compiled.routes state known reaction route

theorem Database.Compiled.of_plays (compiled : content.Compiled scope)
    (plays : content.Plays reaction) : reaction.Compiled scope := by
  cases plays with
  | shared id found => exact compiled.shared id reaction found
  | hero plays => exact compiled.hero.of_plays plays
  | placed id map found object known plays =>
    exact (compiled.placed id map found object known).of_plays plays

theorem Reaction.Compiled.of_sends (compiled : reaction.Compiled scope) {map : Nat}
    {position : Position} (sends : reaction.Sends map position) : map ∈ scope.maps := by
  obtain ⟨node, orientation, carried⟩ := sends
  obtain ⟨entries, script⟩ := compiled
  exact (checked_of_compileScript script node).mapKnown map position orientation carried

end Plays

namespace Content

open Json

variable {scope : Scope}

theorem reaction_compiled {origin : Origin} {name : String} {blocksHero : Bool} {path : Path}
    {entries : List ScriptEntry} {compiled : Reaction}
    (done : reaction scope origin name blocksHero path entries = .ok compiled) :
    compiled.Compiled scope := by
  unfold reaction at done
  split at done
  · cases done
  · rename_i tree script
    cases done
    exact ⟨entries, script⟩

theorem reaction_origin {origin : Origin} {name : String} {blocksHero : Bool} {path : Path}
    {entries : List ScriptEntry} {compiled : Reaction}
    (done : reaction scope origin name blocksHero path entries = .ok compiled) :
    compiled.origin = origin := by
  unfold reaction at done
  split at done
  · cases done
  · cases done
    rfl

theorem states_compiled {owner : Owner} {decl : ObjectDecl} {path : Path} {compiled : List StateDef}
    (done : states scope owner decl path = .ok compiled) :
    ∀ state ∈ compiled, ∀ route, state.route = some route → route.Compiled scope := by
  intro state member route plays
  obtain ⟨⟨declared, index⟩, _, made⟩ := Except.input_of_mapM done member
  obtain ⟨_, made⟩ := Except.guard_ok made
  dsimp only at made
  split at made
  · obtain ⟨nothing, idle, made⟩ := Except.bind_ok made
    cases idle
    cases made
    cases plays
  · obtain ⟨wrapped, script, made⟩ := Except.bind_ok made
    cases made
    cases plays
    cases compiles : reaction scope (.route owner declared.id)
        (decl.name ++ " route (state " ++ toString declared.id ++ ")") false
        (path ++ [.key "states", .index index] ++ [.key "route"]) declared.route with
    | error problem =>
      rw [compiles] at script
      cases script
    | ok route =>
      rw [compiles] at script
      cases script
      exact reaction_compiled compiles

/-- What a handler binds to a state was compiled with its place as the origin. -/
theorem handler_script {owner : Owner} {decl : ObjectDecl} {path : Path} {event : EventDecl}
    {index : Nat} {compiled : Handler}
    (done : handler scope owner decl path event index = .ok compiled) {state : Nat}
    {made : Reaction} (reacts : compiled.reactions.get? state = some made) :
    ∃ name blocksHero spot entries,
      reaction scope (.handler owner index state) name blocksHero spot entries = .ok made := by
  unfold handler at done
  obtain ⟨_, done⟩ := Except.guard_ok done
  obtain ⟨reactions, all, done⟩ := Except.bind_ok done
  cases done
  obtain ⟨⟨declared, position⟩, _, made⟩ :=
    Except.input_of_mapM all (IdMap.mem_of_get?_ofList reacts)
  obtain ⟨_, made⟩ := Except.guard_ok made
  obtain ⟨script, compiles, made⟩ := Except.bind_ok made
  obtain ⟨_, made⟩ := Except.guard_ok made
  cases made
  exact ⟨_, _, _, _, compiles⟩

theorem handler_compiled {owner : Owner} {decl : ObjectDecl} {path : Path} {event : EventDecl}
    {index : Nat} {compiled : Handler}
    (done : handler scope owner decl path event index = .ok compiled) (state : Nat)
    (reaction : Reaction) (reacts : compiled.reactions.get? state = some reaction) :
    reaction.Compiled scope := by
  obtain ⟨_, _, _, _, compiles⟩ := handler_script done reacts
  exact reaction_compiled compiles

theorem handler_located {owner : Owner} {decl : ObjectDecl} {path : Path} {event : EventDecl}
    {index : Nat} {compiled : Handler}
    (done : handler scope owner decl path event index = .ok compiled) {state : Nat}
    {reaction : Reaction} (reacts : compiled.reactions.get? state = some reaction) :
    reaction.origin = .handler owner index state := by
  obtain ⟨_, _, _, _, compiles⟩ := handler_script done reacts
  exact reaction_origin compiles

theorem model_compiled {owner : Owner} {decl : ObjectDecl} {path : Path} {compiled : ObjectModel}
    (done : model scope owner decl path = .ok compiled) : compiled.Compiled scope := by
  unfold model at done
  obtain ⟨states, first, done⟩ := Except.bind_ok done
  obtain ⟨handlers, second, done⟩ := Except.bind_ok done
  cases done
  refine ⟨?_, states_compiled first⟩
  intro made member
  obtain ⟨⟨event, index⟩, _, one⟩ := Except.input_of_mapM second member
  exact handler_compiled one

theorem model_located {owner : Owner} {decl : ObjectDecl} {path : Path} {compiled : ObjectModel}
    (done : model scope owner decl path = .ok compiled) : compiled.Located owner := by
  unfold model at done
  obtain ⟨states, _, done⟩ := Except.bind_ok done
  obtain ⟨handlers, second, done⟩ := Except.bind_ok done
  cases done
  intro index made state reaction bound reacts
  obtain ⟨⟨event, position⟩, listed, one⟩ := Except.getElem?_of_mapM second bound
  have same : position = index := by
    rw [List.getElem?_zipIdx] at listed
    obtain ⟨_, _, same⟩ := Option.map_eq_some_iff.mp listed
    cases same
    omega
  subst same
  exact handler_located one reacts

theorem placedObject_model {file : MapFile} {decl : ObjectDecl} {index : Nat}
    {compiled : PlacedObject} (done : placedObject scope file decl index = .ok compiled) :
    (∃ place, model scope (.placed file.id decl.id) decl place = .ok compiled.model) ∧
      file.extent.contains compiled.position = true := by
  unfold placedObject at done
  obtain ⟨_, done⟩ := Except.guard_ok done
  obtain ⟨inside, done⟩ := Except.guard_ok done
  have within : file.extent.contains decl.position = true := by simpa using inside
  obtain ⟨model, made, done⟩ := Except.bind_ok done
  split at done
  · cases done
    exact ⟨⟨_, made⟩, within⟩
  · split at done
    · cases done
    · cases done
      exact ⟨⟨_, made⟩, within⟩

/-- An object is placed in states that its model declares. -/
theorem placedObject_states {file : MapFile} {decl : ObjectDecl} {index : Nat}
    {compiled : PlacedObject} (done : placedObject scope file decl index = .ok compiled) :
    ∀ state ∈ compiled.initialStates, compiled.model.hasState state = true := by
  unfold placedObject at done
  obtain ⟨_, done⟩ := Except.guard_ok done
  obtain ⟨_, done⟩ := Except.guard_ok done
  obtain ⟨model, _, done⟩ := Except.bind_ok done
  intro state active
  split at done
  · cases done
    exact ObjectModel.hasState_of_default active
  · split at done
    · cases done
    · rename_i initial _ declared
      cases done
      simpa using List.find?_eq_none.mp declared state active

theorem map_objects {file : MapFile} {compiled : MapDef} (done : map scope file = .ok compiled) :
    compiled.extent = file.extent ∧ ∀ placed ∈ compiled.objects, ∃ decl index,
      placedObject scope file decl index = .ok placed := by
  unfold map at done
  obtain ⟨_, done⟩ := Except.guard_ok done
  obtain ⟨_, done⟩ := Except.guard_ok done
  obtain ⟨objects, all, done⟩ := Except.bind_ok done
  cases done
  refine ⟨rfl, fun placed member => ?_⟩
  obtain ⟨⟨decl, index⟩, _, made⟩ := Except.input_of_mapM all member
  exact ⟨decl, index, made⟩

theorem map_placed {file : MapFile} {compiled : MapDef} (done : map scope file = .ok compiled) :
    ∀ placed ∈ compiled.objects, ∃ decl place,
      model scope (.placed file.id decl.id) decl place = .ok placed.model ∧
        compiled.extent.contains placed.position = true := by
  obtain ⟨sized, objects⟩ := map_objects done
  intro placed member
  obtain ⟨decl, index, made⟩ := objects placed member
  obtain ⟨⟨place, made⟩, within⟩ := placedObject_model made
  exact ⟨decl, place, made, sized ▸ within⟩

theorem map_compiled {file : MapFile} {compiled : MapDef} (done : map scope file = .ok compiled) :
    compiled.id = file.id ∧ (∀ placed ∈ compiled.objects, placed.model.Compiled scope) ∧
      compiled.Bounded := by
  have placed := map_placed done
  unfold map at done
  obtain ⟨_, done⟩ := Except.guard_ok done
  obtain ⟨inside, done⟩ := Except.guard_ok done
  obtain ⟨objects, _, done⟩ := Except.bind_ok done
  cases done
  refine ⟨rfl, fun object member => ?_, ?_, fun object member => ?_⟩
  · obtain ⟨_, _, made, _⟩ := placed object member
    exact model_compiled made
  · simpa using inside
  · obtain ⟨_, _, _, within⟩ := placed object member
    exact within

theorem map_located {file : MapFile} {compiled : MapDef} (done : map scope file = .ok compiled) :
    ∀ placed ∈ compiled.objects, ∃ owner, placed.model.Located owner := by
  intro placed member
  obtain ⟨_, _, made, _⟩ := map_placed done placed member
  exact ⟨_, model_located made⟩

theorem inFile_ok {α : Type} {file : String} {result : Except Located α} {value : α}
    (done : inFile file result = .ok value) : result = .ok value := by
  cases result with
  | error located => cases done
  | ok made =>
    cases done
    rfl

theorem commons_compiled {file : CommonsFile} {compiled : List (Nat × Reaction)}
    (done : commons scope file = .ok compiled) :
    (∀ id ∈ file.commons.map (·.id), id ∈ compiled.map (·.1)) ∧
      ∀ id reaction, (id, reaction) ∈ compiled → reaction.Compiled scope := by
  constructor
  · intro id member
    obtain ⟨decl, known, rfl⟩ := List.mem_map.mp member
    obtain ⟨index, here⟩ := List.getElem?_of_mem known
    obtain ⟨output, listed, made⟩ := Except.output_of_mapM done
      (List.mk_mem_zipIdx_iff_getElem?.mpr here)
    obtain ⟨script, _, made⟩ := Except.bind_ok made
    cases made
    exact List.mem_map.mpr ⟨_, listed, rfl⟩
  · intro id shared member
    obtain ⟨⟨decl, index⟩, _, made⟩ := Except.input_of_mapM done member
    obtain ⟨script, compiles, made⟩ := Except.bind_ok made
    cases made
    exact reaction_compiled compiles

theorem maps_compiled {files : List (String × MapFile)} {compiled : List (Nat × MapDef)}
    (done : files.mapM (fun (path, file) => do return (file.id, ← inFile path (map scope file))) =
      .ok compiled) :
    (∀ id ∈ files.map (·.2.id), id ∈ compiled.map (·.1)) ∧
      ∀ id made, (id, made) ∈ compiled →
        made.id = id ∧ (∀ placed ∈ made.objects, placed.model.Compiled scope) ∧
          made.Bounded := by
  constructor
  · intro id member
    obtain ⟨⟨path, file⟩, known, rfl⟩ := List.mem_map.mp member
    obtain ⟨output, listed, made⟩ := Except.output_of_mapM done known
    obtain ⟨_, _, made⟩ := Except.bind_ok made
    cases made
    exact List.mem_map.mpr ⟨_, listed, rfl⟩
  · intro id made member
    obtain ⟨⟨path, file⟩, _, one⟩ := Except.input_of_mapM done member
    obtain ⟨_, compiles, one⟩ := Except.bind_ok one
    cases one
    exact map_compiled (inFile_ok compiles)

theorem compile_ok_iff {commonsSource : Source} {mapSources : List Source} {content : Database} :
    compile commonsSource mapSources = .ok content ↔
      ∃ commonsFile files shared maps,
        commonsSource.parse CommonsFile.reader = .ok commonsFile ∧
        repeatedCommon? commonsFile = none ∧ readMaps [] mapSources = .ok files ∧
        let scope : Scope := ⟨commonsFile.commons.map (·.id), files.map (·.2.id)⟩
        commons scope commonsFile = .ok shared ∧
        model scope .hero commonsFile.hero [.key "hero"] = .ok content.hero ∧
        files.mapM (fun (path, file) => do return (file.id, ← inFile path (map scope file))) =
          .ok maps ∧
        content.commons = IdMap.ofList shared ∧ content.maps = IdMap.ofList maps := by
  constructor
  · intro done
    unfold compile at done
    obtain ⟨commonsFile, parsed, done⟩ := Except.bind_ok done
    dsimp only at done
    split at done
    · cases done
    · rename_i unique
      obtain ⟨files, read, done⟩ := Except.bind_ok done
      obtain ⟨shared, commonsDone, done⟩ := Except.bind_ok done
      obtain ⟨hero, heroDone, done⟩ := Except.bind_ok done
      obtain ⟨maps, mapsDone, done⟩ := Except.bind_ok done
      cases done
      exact ⟨commonsFile, files, shared, maps, parsed, unique, read, inFile_ok commonsDone,
        inFile_ok heroDone, mapsDone, rfl, rfl⟩
  · intro ⟨commonsFile, files, shared, maps, parsed, unique, read, commonsDone, heroDone, mapsDone,
      sharedSame, mapsSame⟩
    obtain ⟨_, _, hero⟩ := content
    subst sharedSame mapsSame
    unfold compile
    rw [Except.ok_bind parsed]
    simp only [unique]
    rw [Except.ok_bind read, commonsDone, heroDone, inFile, inFile]
    exact Except.ok_bind mapsDone

theorem compile_compiled {commonsSource : Source} {mapSources : List Source} {content : Database}
    (done : compile commonsSource mapSources = .ok content) :
    ∃ scope, content.Compiled scope := by
  obtain ⟨commonsFile, files, shared, maps, _, _, _, commonsDone, heroDone, mapsDone, sharedSame,
    mapsSame⟩ := compile_ok_iff.mp done
  obtain ⟨sharedIds, sharedScripts⟩ := commons_compiled commonsDone
  obtain ⟨mapIds, mapDefs⟩ := maps_compiled mapsDone
  have entry : ∀ id map, content.maps.get? id = some map → (id, map) ∈ maps := by
    intro id map found
    rw [mapsSame] at found
    exact IdMap.mem_of_get?_ofList found
  refine ⟨_, fun id known => ?_, fun id known => ?_, fun id map found => ?_,
    fun id reaction found => ?_, model_compiled heroDone, fun id map found => ?_,
    fun id map found => ?_⟩
  · rw [sharedSame]
    exact (IdMap.contains_iff _ id).mp (IdMap.contains_ofList (sharedIds id known))
  · rw [mapsSame]
    exact (IdMap.contains_iff _ id).mp (IdMap.contains_ofList (mapIds id known))
  · exact (mapDefs id map (entry id map found)).1
  · rw [sharedSame] at found
    exact sharedScripts id reaction (IdMap.mem_of_get?_ofList found)
  · exact (mapDefs id map (entry id map found)).2.1
  · exact (mapDefs id map (entry id map found)).2.2

/-- The hero and every map of the content were compiled from what their files declare. -/
theorem compile_parts {commonsSource : Source} {mapSources : List Source} {content : Database}
    (done : compile commonsSource mapSources = .ok content) :
    ∃ scope, (∃ decl place, model scope .hero decl place = .ok content.hero) ∧
      ∀ id made, content.maps.get? id = some made → ∃ file, map scope file = .ok made := by
  obtain ⟨commonsFile, files, shared, maps, _, _, _, _, heroDone, mapsDone, _, mapsSame⟩ :=
    compile_ok_iff.mp done
  refine ⟨_, ⟨_, _, heroDone⟩, fun id made found => ?_⟩
  rw [mapsSame] at found
  obtain ⟨⟨path, file⟩, _, one⟩ :=
    Except.input_of_mapM mapsDone (IdMap.mem_of_get?_ofList found)
  obtain ⟨_, compiles, one⟩ := Except.bind_ok one
  cases one
  exact ⟨file, inFile_ok compiles⟩

theorem compile_located {commonsSource : Source} {mapSources : List Source} {content : Database}
    (done : compile commonsSource mapSources = .ok content) :
    content.hero.Located .hero ∧ ∀ id map, content.maps.get? id = some map →
      ∀ placed ∈ map.objects, ∃ owner, placed.model.Located owner := by
  obtain ⟨scope, ⟨decl, place, hero⟩, maps⟩ := compile_parts done
  refine ⟨model_located hero, fun id map found => ?_⟩
  obtain ⟨file, compiles⟩ := maps id map found
  exact map_located compiles

theorem compile_states {commonsSource : Source} {mapSources : List Source} {content : Database}
    (done : compile commonsSource mapSources = .ok content) :
    ∀ id map, content.maps.get? id = some map → ∀ placed ∈ map.objects,
      ∀ state ∈ placed.initialStates, placed.model.hasState state = true := by
  obtain ⟨scope, _, maps⟩ := compile_parts done
  intro id map found placed member
  obtain ⟨file, compiles⟩ := maps id map found
  obtain ⟨decl, index, made⟩ := (map_objects compiles).2 placed member
  exact placedObject_states made

end Content

end TileScript
