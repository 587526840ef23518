import Mathlib.Data.List.Perm.Basic
import TileScript.Proofs.Content.Compiled

namespace TileScript

namespace IdMap

variable {α : Type} {pairs others : List (Nat × α)}

theorem get?_ofList_iff (distinct : (pairs.map (·.1)).Nodup) {id : Nat} {value : α} :
    (ofList pairs).get? id = some value ↔ (id, value) ∈ pairs := by
  constructor
  · exact mem_of_get?_ofList
  · intro member
    have listed : id ∈ pairs.map (·.1) := List.mem_map.mpr ⟨_, member, rfl⟩
    obtain ⟨found, here⟩ := (contains_iff _ id).mp (contains_ofList listed)
    have same := List.inj_on_of_nodup_map distinct member (mem_of_get?_ofList here) rfl
    cases same
    exact here

theorem ofList_perm (shuffled : pairs.Perm others) (distinct : (pairs.map (·.1)).Nodup) :
    ofList pairs = ofList others := by
  apply ext_get?
  intro id
  apply Option.ext
  intro value
  have distinct' := (shuffled.map (·.1)).nodup distinct
  rw [get?_ofList_iff distinct, get?_ofList_iff distinct', shuffled.mem_iff]

end IdMap

theorem Except.mapM_ok_iff {ε α β : Type} {action : α → Except ε β} {inputs : List α}
    {outputs : List β} :
    inputs.mapM action = .ok outputs ↔
      List.Forall₂ (fun input output => action input = .ok output) inputs outputs := by
  constructor
  · exact Except.mapM_ok
  · intro paired
    induction paired with
    | nil => rfl
    | cons here _ ih => rw [List.mapM_cons, here, ih]; rfl

theorem Except.mapM_perm {ε α β : Type} {action : α → Except ε β} {inputs others : List α}
    {outputs : List β} (shuffled : inputs.Perm others) (done : inputs.mapM action = .ok outputs) :
    ∃ results, others.mapM action = .ok results ∧ outputs.Perm results := by
  obtain ⟨results, paired, same⟩ :=
    List.perm_comp_forall₂ shuffled.symm (Except.mapM_ok_iff.mp done)
  exact ⟨results, Except.mapM_ok_iff.mpr paired, same.symm⟩

structure Scope.Alike (scope other : Scope) : Prop where
  commons : scope.commons = other.commons
  maps : ∀ id, scope.maps.contains id = other.maps.contains id

section Alike

variable {scope other : Scope}

theorem Draft.misplaced?_alike (alike : scope.Alike other) : misplaced? scope = misplaced? other := by
  funext tree chain command
  unfold misplaced?
  simp only [alike.commons, alike.maps]

theorem Draft.placeAll_alike (alike : scope.Alike other) : placeAll scope = placeAll other := by
  funext draft index entries
  induction entries generalizing draft index with
  | nil => rfl
  | cons entry rest ih => simp only [placeAll, place, misplaced?_alike alike, ih]

theorem compileScript_alike (alike : scope.Alike other) :
    compileScript scope = compileScript other := by
  funext entries
  unfold compileScript
  rw [Draft.placeAll_alike alike]

end Alike

namespace Content

section Alike

variable {scope other : Scope} (alike : scope.Alike other)

include alike

theorem reaction_alike : reaction scope = reaction other := by
  funext origin name blocksHero path entries
  unfold reaction
  rw [compileScript_alike alike]

theorem model_alike : model scope = model other := by
  funext owner decl path
  unfold model states handler
  rw [reaction_alike alike]

theorem map_alike : map scope = map other := by
  funext file
  unfold map placedObject
  rw [model_alike alike]

theorem commons_alike : commons scope = commons other := by
  funext file
  unfold commons
  rw [reaction_alike alike]

end Alike

/-- Reading succeeds when each file parses and all ids, those before included, are different. -/
theorem readMaps_ok_iff {taken : List Nat} {sources : List Source}
    {files : List (String × MapFile)} :
    readMaps taken sources = .ok files ↔
      sources.mapM (fun source => do return (source.path, ← source.parse MapFile.reader)) =
          .ok files ∧
        (files.map (·.2.id)).Nodup ∧ ∀ id ∈ files.map (·.2.id), id ∉ taken := by
  induction sources generalizing taken files with
  | nil =>
    constructor
    · intro read
      cases read
      exact ⟨rfl, List.nodup_nil, by simp⟩
    · intro ⟨parsed, _⟩
      cases parsed
      rfl
  | cons source rest ih =>
    constructor
    · intro read
      unfold readMaps at read
      obtain ⟨file, parsed, read⟩ := Except.bind_ok read
      obtain ⟨untaken, read⟩ := Except.guard_ok read
      obtain ⟨others, later, read⟩ := Except.bind_ok read
      cases read
      obtain ⟨all, distinct, fresh⟩ := ih.mp later
      refine ⟨?_, ?_, ?_⟩
      · rw [List.mapM_cons, parsed, all]
        rfl
      · rw [List.map_cons, List.nodup_cons]
        exact ⟨fun repeated => fresh _ repeated List.mem_cons_self, distinct⟩
      · intro id member
        obtain rfl | member := List.mem_cons.mp member
        · simpa using untaken
        · exact fun before => fresh id member (List.mem_cons_of_mem _ before)
    · intro ⟨parsed, distinct, fresh⟩
      rw [List.mapM_cons] at parsed
      obtain ⟨entry, here, parsed⟩ := Except.bind_ok parsed
      obtain ⟨file, read, here⟩ := Except.bind_ok here
      obtain ⟨others, all, parsed⟩ := Except.bind_ok parsed
      cases here
      cases parsed
      obtain ⟨unrepeated, distinct⟩ := List.nodup_cons.mp distinct
      have untaken : ¬ taken.contains file.id = true := by
        simpa using fresh file.id List.mem_cons_self
      have later : readMaps (file.id :: taken) rest = .ok others := by
        apply ih.mpr
        refine ⟨all, distinct, fun id member before => ?_⟩
        obtain rfl | before := List.mem_cons.mp before
        · exact unrepeated member
        · exact fresh id (List.mem_cons_of_mem _ member) before
      unfold readMaps
      rw [Except.ok_bind read, if_neg untaken]
      exact Except.ok_bind later

theorem readMaps_perm {sources others : List Source} (shuffled : sources.Perm others)
    {files : List (String × MapFile)} (read : readMaps [] sources = .ok files) :
    (files.map (·.2.id)).Nodup ∧
      ∃ results, readMaps [] others = .ok results ∧ files.Perm results := by
  obtain ⟨parsed, distinct, _⟩ := readMaps_ok_iff.mp read
  obtain ⟨results, parsed', same⟩ := Except.mapM_perm shuffled parsed
  have distinct' := (same.map (·.2.id)).nodup distinct
  exact ⟨distinct, results, readMaps_ok_iff.mpr ⟨parsed', distinct', by simp⟩, same⟩

theorem maps_listed {scope : Scope} {files : List (String × MapFile)}
    {compiled : List (Nat × MapDef)}
    (done : files.mapM (fun (path, file) => do return (file.id, ← inFile path (map scope file))) =
      .ok compiled) : compiled.map (·.1) = files.map (·.2.id) := by
  induction files generalizing compiled with
  | nil =>
    cases done
    rfl
  | cons entry rest ih =>
    rw [List.mapM_cons] at done
    obtain ⟨pair, here, done⟩ := Except.bind_ok done
    obtain ⟨made, _, here⟩ := Except.bind_ok here
    obtain ⟨others, later, done⟩ := Except.bind_ok done
    cases here
    cases done
    rw [List.map_cons, List.map_cons, ih later]

theorem compile_shuffled {commonsSource : Source} {mapSources others : List Source}
    (shuffled : mapSources.Perm others) {content : Database}
    (done : compile commonsSource mapSources = .ok content) :
    compile commonsSource others = .ok content := by
  obtain ⟨commonsFile, files, shared, maps, parsed, unique, read, commonsDone, heroDone, mapsDone,
    sharedSame, mapsSame⟩ := compile_ok_iff.mp done
  obtain ⟨distinct, results, read', same⟩ := readMaps_perm shuffled read
  have alike : Scope.Alike ⟨commonsFile.commons.map (·.id), files.map (·.2.id)⟩
      ⟨commonsFile.commons.map (·.id), results.map (·.2.id)⟩ :=
    ⟨rfl, fun id => (same.map (·.2.id)).contains_eq⟩
  rw [commons_alike alike] at commonsDone
  rw [model_alike alike] at heroDone
  have listed := maps_listed mapsDone
  rw [map_alike alike] at mapsDone
  obtain ⟨maps', mapsDone', sameMaps⟩ := Except.mapM_perm same mapsDone
  apply compile_ok_iff.mpr
  refine ⟨commonsFile, results, shared, maps', parsed, unique, read', commonsDone, heroDone,
    mapsDone', sharedSame, ?_⟩
  rw [mapsSame]
  exact IdMap.ofList_perm sameMaps (listed ▸ distinct)

/--
The order of the map files decides nothing: if they compile in one order, they compile in every
other, and to the same shared reactions, the same hero and the same maps.
-/
theorem compile_independent_of_order (commonsSource : Source) {mapSources others : List Source}
    (shuffled : mapSources.Perm others) (content : Database) :
    compile commonsSource mapSources = .ok content ↔
      compile commonsSource others = .ok content :=
  ⟨compile_shuffled shuffled, compile_shuffled shuffled.symm⟩

def voyager : Source where
  path := "commons.json"
  text := "[\x7b\"name\":\"Voyager\",\"states\":[[1]]\x7d,[[1,\"sail\",false," ++
    "[\x7b\"kind\":\"teleport\",\"map_id\":2,\"x\":0,\"y\":0\x7d]]]]"

def pierMap : Source where
  path := "pier.json"
  text := "[1,\"Pier\",1,1,[0,0]]"

def islandMap : Source where
  path := "island.json"
  text := "[2,\"Island\",2,1,[1,0],\"up\",[\x7b\"id\":1,\"name\":\"Ferry\"," ++
    "\"states\":[[1,false,[\x7b\"kind\":\"teleport\",\"map_id\":1,\"x\":0,\"y\":0\x7d]]]\x7d]]"

theorem islands_in_either_order :
    [pierMap, islandMap].Perm [islandMap, pierMap] ∧
      ∃ content, compile voyager [pierMap, islandMap] = .ok content ∧
        compile voyager [islandMap, pierMap] = .ok content ∧ content.maps.ids = [1, 2] := by
  have shuffled : [pierMap, islandMap].Perm [islandMap, pierMap] := .swap ..
  have listed : (compile voyager [pierMap, islandMap]).toOption.map (·.maps.ids) =
      some [1, 2] := by
    decide +kernel
  refine ⟨shuffled, ?_⟩
  cases compiled : compile voyager [pierMap, islandMap] with
  | error problem =>
    rw [compiled] at listed
    cases listed
  | ok content =>
    rw [compiled] at listed
    exact ⟨content, rfl, (compile_independent_of_order voyager shuffled content).mp compiled,
      Option.some.inj listed⟩

end Content

end TileScript
