import TileScript.Input.Format
import TileScript.Launch.Host
import TileScript.Launch.LogFilter

namespace TileScript

inductive LaunchError where
  | root (error : RootError)
  | content (error : ContentError)
  | session (error : SessionError)
  | unreadableScript (path : String) (error : FileError)
  | malformedScript (path : String) (fault : Json.Fault)

def LaunchError.message : LaunchError → String
  | root error => error.message
  | content error => "failed to load content database: " ++ error.text
  | session error => error.message
  | unreadableScript path error => "failed to read input script " ++ path ++ ": " ++ error.message
  | malformedScript path fault =>
    "failed to parse input script " ++ path ++ ": " ++ fault.path.text

namespace Launch

def readScript (files : FileTree) (path : String) : Except LaunchError (List ScriptedInput) :=
  match files.readText path with
  | .error error => .error (.unreadableScript path error)
  | .ok text =>
    match ScriptedInput.readAll text with
    | .error fault => .error (.malformedScript path fault)
    | .ok script => .ok script

def play (host : Host) (config : SessionConfig) : Except LaunchError Summary := do
  let root ← host.root.mapError .root
  let content ← ((ContentPaths.ofRoot root).load host.files).mapError .content
  (runSession content config).mapError .session

/-- A whole number below `bound` from the environment. What is set but is no such number is ignored
with a warning. -/
def numberSetting (host : Host) (name : String) (bound : Nat) : Option Nat × List LogLine :=
  match host.text? name with
  | none => (none, [])
  | some text =>
    match readUnsigned? bound (trimBlank text.toList) with
    | some number => (some number, [])
    | none =>
      (none, [⟨.warn, .settings, "invalid env var value; ignoring",
        [("env_var", quotedText name), ("value", quotedText text)]⟩])

def flagSetting (host : Host) (name : String) : Bool :=
  match host.text? name with
  | none => false
  | some text =>
    ["1", "true", "yes"].contains (String.ofList (trimBlank text.toList)).toLower

def optionText (value : Option String) : String :=
  match value with
  | some text => "Some(" ++ text ++ ")"
  | none => "None"

def report (summary : Summary) : List LogLine :=
  ⟨.info, .session, "run_summary", [("ticks_run", toString summary.ticksRun),
      ("final_scene", optionText (summary.finalScene.map quotedText)),
      ("diagnostics", toString summary.diagnostics.length)]⟩ ::
    summary.hud.map (fun line => ⟨.info, .session, "hud", [("line", quotedText line)]⟩) ++
    summary.diagnostics.map (fun diagnostic =>
      ⟨.warn, .session, "command_diagnostic", [("diagnostic", diagnostic.text)]⟩) ++
    summary.vars.entries.map (fun (id, value) =>
      ⟨.debug, .session, "final_variable",
        [("variable", toString id), ("value", value.display)]⟩)

def failed (source : LogSource) (error : LaunchError) : LogLine :=
  ⟨.error, source, "startup_failed", [("error", error.message)]⟩

def runWith (host : Host) (script : List ScriptedInput) : Nat × List LogLine :=
  let startMap := numberSetting host "REACTOR_START_MAP" 4294967296
  let maxTicks := numberSetting host "REACTOR_MAX_TICKS" 18446744073709551616
  let config : SessionConfig :=
    { startMap := startMap.1.getD 1
      maxTicks := maxTicks.1.filter (0 < ·)
      realtime := !flagSetting host "REACTOR_HEADLESS"
      script := script }
  let configured : LogLine := ⟨.info, .settings, "app_config",
    [("start_map", toString config.startMap),
    ("max_ticks", optionText (config.maxTicks.map toString)),
    ("realtime", if config.realtime then "true" else "false")]⟩
  let begun := startMap.2 ++ maxTicks.2 ++ [configured]
  match play host config with
  | .error error => (1, begun ++ [failed .session error])
  | .ok summary => (0, begun ++ report summary)

def runAll (host : Host) : Nat × List LogLine :=
  match host.variable? "REACTOR_INPUT_SCRIPT" with
  | .absent => runWith host []
  | .text path =>
    match readScript host.files path with
    | .error error => (1, [failed .program error])
    | .ok script => runWith host script
  | .bytes bytes => (1, [failed .program (.unreadableScript (quotedBytes bytes) .notFound)])

def brokenOff : Nat := 101

def run (host : Host) : Nat × List String :=
  match LogFilter.ofSetting (host.text? "RUST_LOG") with
  | .error _ => (brokenOff, [])
  | .ok filter =>
    let (code, log) := runAll host
    (code, (log.filter filter.shows).map LogLine.text)

end Launch

end TileScript
