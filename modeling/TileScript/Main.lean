import TileScript.Launch.Basic

namespace TileScript

def settingNames : List String :=
  [rootVariable, "REACTOR_START_MAP", "REACTOR_MAX_TICKS", "REACTOR_INPUT_SCRIPT",
    "REACTOR_HEADLESS", "RUST_LOG"]

def readEnvironment : IO (List (String × List UInt8)) := do
  let values ← settingNames.mapM (fun name => do return (name, ← IO.getEnv name))
  return values.filterMap (fun (name, value) =>
    value.map (fun text => (name, text.toUTF8.toList)))

def readFiles (paths : List String) : IO FileTree := do
  let base : FileTree := { base := toString (← IO.currentDir) }
  paths.foldlM (fun tree (path : String) => do
    return tree.write path (.file (← IO.FS.readBinFile path))) base

end TileScript

open TileScript in
def main (paths : List String) : IO UInt32 := do
  let host : Host := ⟨← readFiles paths, ← readEnvironment, toString (← IO.appPath)⟩
  let (code, lines) := Launch.run host
  for line in lines do
    IO.println line
  return code.toUInt32
