import TileScript.Content.Load
import TileScript.Text.Quoted

namespace TileScript

structure Host where
  files : FileTree
  /-- The environment variables; their values are bytes. Of several values the last one counts. -/
  environment : List (String × List UInt8)
  executable : String

inductive EnvValue where
  | absent
  | text (text : String)
  | bytes (bytes : List UInt8)

def Host.variable? (host : Host) (name : String) : EnvValue :=
  match host.environment.reverse.find? (·.1 == name) with
  | none => .absent
  | some (_, bytes) =>
    match String.fromUTF8? ⟨bytes.toArray⟩ with
    | some text => .text text
    | none => .bytes bytes

def Host.text? (host : Host) (name : String) : Option String :=
  match host.variable? name with
  | .text text => some text
  | _ => none

def rootVariable : String := "REACTOR_ROOT"

inductive RootError where
  | notText (bytes : List UInt8)
  | invalidRoot (path : String)
  | noParent (executable : String)
  | notFound (start : String)

def RootError.message : RootError → String
  | notText bytes =>
    "failed to read environment variable " ++ rootVariable ++
      ": environment variable was not valid unicode: " ++ quotedBytes bytes
  | invalidRoot path =>
    "REACTOR_ROOT is set but does not point to a valid project root: " ++ path ++
      "\nA valid root must contain Cargo.toml and either crates/ or assets/."
  | noParent executable => "current executable path has no parent directory: " ++ executable
  | notFound start =>
    "Could not detect project root by walking upward from executable directory: " ++ start ++
      "\nExpected a directory containing Cargo.toml and either crates/ or assets/.\nSet " ++
      rootVariable ++ " explicitly, for example:\nBash/zsh: export " ++ rootVariable ++
      "=\"/path/to/reactor\""

namespace Host

def isRoot (files : FileTree) (path : String) : Bool :=
  files.isFile (path ++ "/Cargo.toml") &&
    (files.isDirectory (path ++ "/crates") || files.isDirectory (path ++ "/assets"))

def rootAbove? (files : FileTree) (names : List String) : Option String :=
  let candidates := (List.range names.length).map (fun dropped =>
    String.intercalate "/" (names.take (names.length - dropped)))
  candidates.find? (isRoot files)

/-- The root directory of the project: the one the environment names, and failing that the closest
one above the program. -/
def root (host : Host) : Except RootError String :=
  match host.variable? rootVariable with
  | .bytes bytes => .error (.notText bytes)
  | .text path =>
    let normal := host.files.normalize path
    if isRoot host.files normal then .ok normal else .error (.invalidRoot normal)
  | .absent =>
    match ((host.files.normalize host.executable).splitOn "/").dropLast with
    | [] => .error (.noParent host.executable)
    | names =>
      match rootAbove? host.files names with
      | some path => .ok (host.files.normalize path)
      | none => .error (.notFound (host.files.normalize (String.intercalate "/" names)))

end Host

end TileScript
