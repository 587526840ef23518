import TileScript.Language.Standard

namespace TileScript

inductive ProbeFault where
  | atBegin
  | atPerform
  | atReturn
  deriving DecidableEq

structure Probe where
  label : String
  flows : List Flow
  after : Flow
  runsBeside : Bool
  fault : Option ProbeFault
  scene : Option Nat

namespace Probe

instance : Inhabited Probe := ⟨⟨"p", [], .next, false, none, none⟩⟩

def failure : Failure := .missingObject 99

def note (probe : Probe) (hook : String) (stage : Stage) : Stage :=
  { stage with effects := stage.effects.note (probe.label ++ ":" ++ hook) }

def flow (probe : Probe) (count : Nat) : Flow :=
  (probe.flows[count]?.or probe.flows.getLast?).getD .next

def begin (probe : Probe) (stage : Stage) : Except Failure Nat × Stage :=
  (if probe.fault = some .atBegin then .error failure else .ok 0, probe.note "init" stage)

def perform (probe : Probe) (count : Nat) (stage : Stage) : Except Failure (Flow × Nat) × Stage :=
  let noted := probe.note "update" stage
  if probe.fault = some .atPerform then (.error failure, noted)
  else
    (.ok (probe.flow count, count + 1),
      match probe.scene with
      | some map => { noted with effects := noted.effects.requestScene ⟨map, ⟨0, 0⟩, none⟩ }
      | none => noted)

def childrenDone (probe : Probe) (stage : Stage) : Except Failure Flow × Stage :=
  (if probe.fault = some .atReturn then .error failure else .ok probe.after,
    probe.note "return" stage)

def extension (probes : Array Probe) : Extension where
  runsBeside := fun index => (probes.getD index default).runsBeside
  begin := fun index _ stage => (probes.getD index default).begin stage
  perform := fun index _ count stage => (probes.getD index default).perform count stage
  childrenDone := fun index _ stage => (probes.getD index default).childrenDone stage
  listen := fun index _ count => (count, [(probes.getD index default).label ++ ":input"])
  draw := fun index count => [(probes.getD index default).label ++ " " ++ toString count]

end Probe

end TileScript
