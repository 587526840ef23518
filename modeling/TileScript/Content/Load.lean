import TileScript.Content.Compile
import TileScript.Launch.Files
import TileScript.Text.LowerCase

namespace TileScript

structure ContentPaths where
  base : String
  maps : String

namespace ContentPaths

def ofRoot (root : String) : ContentPaths where
  base := root ++ "/assets/base"
  maps := root ++ "/assets/base/maps"

def commons (paths : ContentPaths) : String := paths.base ++ "/commons.json"

/-- What follows the last point of a file name, unless the point begins the name. -/
def extension? (name : String) : Option String :=
  match (name.splitOn ".").reverse with
  | last :: before => if before.isEmpty || before == [""] then none else some last
  | [] => none

def isMapFile (name : String) : Bool :=
  match extension? name with
  | some extension => extension.toLower == "json"
  | none => false

/-- The map files by name, whatever the case; a missing directory holds none. -/
def mapFiles (files : FileTree) (paths : ContentPaths) : List String :=
  let names := (files.names paths.maps).filter (fun name =>
    isMapFile name && files.isFile (paths.maps ++ "/" ++ name))
  let keyed := names.map (fun name => (lowerText name, name))
  (keyed.mergeSort (fun left right => left.1 ≤ right.1)).map
    (fun entry => paths.maps ++ "/" ++ entry.2)

def read (files : FileTree) (path : String) : Except ContentError Source :=
  match files.readText path with
  | .ok text => .ok ⟨path, text⟩
  | .error error => .error ⟨.unreadable error.message, path, none, none⟩

def load (files : FileTree) (paths : ContentPaths) : Except ContentError Database := do
  let commons ← read files paths.commons
  let maps ← (paths.mapFiles files).mapM (read files)
  Content.compile commons maps

end ContentPaths

end TileScript
