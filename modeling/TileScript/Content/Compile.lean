import TileScript.Content.Script
import TileScript.World

namespace TileScript

open Json

structure Source where
  path : String
  text : String

def Source.parse {α : Type} (source : Source) (reader : Reader α) : Except ContentError α :=
  let scan : Scan := ⟨source.text.toList, 1⟩
  match reader Reader.maxNesting scan with
  | (.error fault, _) =>
    .error ⟨.malformed, source.path, if fault.path.text = "." then none else some fault.path,
      fault.line⟩
  | (.ok value, after) =>
    match (Reader.finished Reader.maxNesting after).1 with
    | .error fault => .error ⟨.trailingText, source.path, none, fault.line⟩
    | .ok _ => .ok value

namespace Content

def reaction (scope : Scope) (origin : Origin) (name : String) (blocksHero : Bool) (path : Path)
    (entries : List ScriptEntry) : Except Located Reaction :=
  match compileScript scope entries with
  | .error (problem, index) => .error ⟨problem, path ++ [.index index]⟩
  | .ok tree => .ok ⟨origin, name, tree, blocksHero⟩

def states (scope : Scope) (owner : Owner) (decl : ObjectDecl) (path : Path) :
    Except Located (List StateDef) :=
  decl.states.zipIdx.mapM (fun (state, index) => do
    let place := path ++ [.key "states", .index index]
    if (decl.states.take index).any (·.id == state.id) then
      throw ⟨.stateDeclaredTwice state.id decl.name, place⟩
    let route ←
      if state.route.isEmpty then pure none
      else
        some <$> reaction scope (.route owner state.id)
          (decl.name ++ " route (state " ++ toString state.id ++ ")") false
          (place ++ [.key "route"]) state.route
    return ⟨state.id, state.directionFix, route⟩)

def validTimeParameters : List (Option Value) → Bool
  | [some (.number interval), some (.bool _)] => 0 ≤ interval
  | _ => false

def handler (scope : Scope) (owner : Owner) (decl : ObjectDecl) (path : Path) (event : EventDecl)
    (index : Nat) : Except Located Handler := do
  let place := path ++ [.key "events", .index index]
  if event.system && event.event == timeEvent && !validTimeParameters event.filters then
    throw ⟨.timeParameters, place ++ [.key "parameters"]⟩
  let reactions ← event.reactions.zipIdx.mapM (fun (declared, position) => do
    let spot := place ++ [.key "reactions", .index position]
    if !decl.states.any (·.id == declared.state) then
      throw ⟨.stateUndeclared declared.state decl.name, spot ++ [.key "state"]⟩
    let compiled ← reaction scope (.handler owner index declared.state)
      (decl.name ++ " event " ++ toString event.event ++ " (state " ++ toString declared.state ++
        ")")
      declared.blocksHero (spot ++ [.key "commands"]) declared.commands
    if (event.reactions.take position).any (·.state == declared.state) then
      throw ⟨.stateReactsTwice declared.state, spot⟩
    return (declared.state, compiled))
  return ⟨event.system, event.event, event.filters, IdMap.ofList reactions⟩

def model (scope : Scope) (owner : Owner) (decl : ObjectDecl) (path : Path) :
    Except Located ObjectModel := do
  let states ← states scope owner decl path
  let handlers ← decl.events.zipIdx.mapM (fun (event, index) =>
    handler scope owner decl path event index)
  return ⟨states, handlers, decl.oneEventPerFrame, decl.triggerableByOthers, decl.through⟩

def placedObject (scope : Scope) (file : MapFile) (decl : ObjectDecl) (index : Nat) :
    Except Located PlacedObject := do
  let place : Path := [.key "objects", .index index]
  if decl.id = heroId ∨ (file.objects.take index).any (·.id == decl.id) then
    throw ⟨.objectIdTaken decl.id file.id, place ++ [.key "id"]⟩
  if !file.extent.contains decl.position then
    throw ⟨.objectOutside decl.name, place⟩
  let model ← model scope (.placed file.id decl.id) decl place
  match decl.initialStates with
  | none =>
    return ⟨decl.id, decl.name, decl.position, decl.orientation, model.defaultStates, model⟩
  | some initial =>
    match initial.find? (fun state => !model.hasState state) with
    | some state =>
      throw ⟨.initialStateUndeclared state decl.name, place ++ [.key "initial_states"]⟩
    | none => return ⟨decl.id, decl.name, decl.position, decl.orientation, initial, model⟩

def map (scope : Scope) (file : MapFile) : Except Located MapDef := do
  if file.extent.width ≤ 0 ∨ file.extent.height ≤ 0 then
    throw ⟨.emptyMap file.extent.width file.extent.height, [.key "width"]⟩
  if !file.extent.contains file.heroStart then
    throw ⟨.heroOutside, [.key "hero_start"]⟩
  let objects ← file.objects.zipIdx.mapM (fun (decl, index) => placedObject scope file decl index)
  return ⟨file.id, file.name, file.extent, file.heroStart, file.heroOrientation, objects⟩

def commons (scope : Scope) (file : CommonsFile) : Except Located (List (Nat × Reaction)) :=
  file.commons.zipIdx.mapM (fun (decl, index) => do
    let compiled ← reaction scope (.common decl.id) decl.name decl.blocksHero
      [.key "common_reactions", .index index, .key "commands"] decl.commands
    return (decl.id, compiled))

def inFile {α : Type} (file : String) (result : Except Located α) : Except ContentError α :=
  result.mapError (fun located => ⟨located.problem, file, some located.path, none⟩)

def repeatedCommon? (file : CommonsFile) : Option Located :=
  file.commons.zipIdx.findSome? (fun (decl, index) =>
    if (file.commons.take index).any (·.id == decl.id) then
      some ⟨.commonDefinedTwice decl.id, [.key "common_reactions", .index index]⟩
    else none)

def readMaps (taken : List Nat) : List Source → Except ContentError (List (String × MapFile))
  | [] => .ok []
  | source :: rest => do
    let file ← source.parse MapFile.reader
    if taken.contains file.id then
      throw ⟨.mapDefinedTwice file.id, source.path, some [.key "id"], none⟩
    let others ← readMaps (file.id :: taken) rest
    return (source.path, file) :: others

def compile (commonsSource : Source) (mapSources : List Source) : Except ContentError Database := do
  let commonsFile ← commonsSource.parse CommonsFile.reader
  match repeatedCommon? commonsFile with
  | some located => inFile commonsSource.path (.error located)
  | none => do
    let files ← readMaps [] mapSources
    let scope : Scope := ⟨commonsFile.commons.map (·.id), files.map (·.2.id)⟩
    let compiledCommons ← inFile commonsSource.path (commons scope commonsFile)
    let hero ← inFile commonsSource.path (model scope .hero commonsFile.hero [.key "hero"])
    let maps ← files.mapM (fun (path, file) => do
      return (file.id, ← inFile path (map scope file)))
    return ⟨IdMap.ofList compiledCommons, IdMap.ofList maps, hero⟩

end Content

end TileScript
