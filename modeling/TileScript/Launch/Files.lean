namespace TileScript

inductive FileError where
  | notFound
  | notADirectory
  | isADirectory
  | nameTooLong
  | invalidText
  deriving DecidableEq

def FileError.message : FileError → String
  | notFound => "No such file or directory (os error 2)"
  | notADirectory => "Not a directory (os error 20)"
  | isADirectory => "Is a directory (os error 21)"
  | nameTooLong => "File name too long (os error 36)"
  | invalidText => "stream did not contain valid UTF-8"

inductive FileNode where
  | directory
  | file (bytes : ByteArray)

abbrev Place := List String

/-- Files and directories below a base directory, each with its place. Directories on the way to the
base or to an entry are there without an entry of their own. -/
structure FileTree where
  base : String
  entries : List (Place × FileNode) := []

namespace FileTree

def maxName : Nat := 255

def maxPath : Nat := 4095

def home (tree : FileTree) : Place := (tree.base.splitOn "/").filter (· != "")

def node? (tree : FileTree) (place : Place) : Option FileNode :=
  match tree.entries.find? (·.1 == place) with
  | some entry => some entry.2
  | none =>
    if place.isPrefixOf tree.home || tree.entries.any (fun entry => place.isPrefixOf entry.1) then
      some .directory
    else none

def isDirectoryAt (tree : FileTree) (place : Place) : Bool :=
  match tree.node? place with
  | some .directory => true
  | _ => false

def put (tree : FileTree) (place : Place) (node : FileNode) : FileTree :=
  if tree.entries.any (·.1 == place) then
    { tree with entries := tree.entries.map (fun entry =>
        if entry.1 == place then (place, node) else entry) }
  else { tree with entries := tree.entries ++ [(place, node)] }

def descend (state : FileTree × Place) (name : String) : FileTree × Place :=
  let (tree, place) := state
  if name = "" ∨ name = "." then (tree, place)
  else if name = ".." then
    (if (tree.node? place).isSome then tree else tree.put place .directory, place.dropLast)
  else (tree, place ++ [name])

def write (tree : FileTree) (path : String) (node : FileNode) : FileTree :=
  let (tree, place) := (path.splitOn "/").foldl descend (tree, tree.home)
  tree.put place node

/-- Follows the names of a path from a place on. A name may be `.` or `..`, and above the top
directory there is only the top directory. -/
def follow (tree : FileTree) (place : Place) : List String → Except FileError Place
  | [] => .ok place
  | name :: rest =>
    if !tree.isDirectoryAt place then .error .notADirectory
    else if name = "" ∨ name = "." then tree.follow place rest
    else if name = ".." then tree.follow place.dropLast rest
    else if maxName < name.utf8ByteSize then .error .nameTooLong
    else if (tree.node? (place ++ [name])).isSome then tree.follow (place ++ [name]) rest
    else .error .notFound

def locate (tree : FileTree) (path : String) : Except FileError Place :=
  if path = "" then .error .notFound
  else if maxPath < path.utf8ByteSize then .error .nameTooLong
  else tree.follow [] (path.splitOn "/")

def pathOf (tree : FileTree) (place : Place) : String :=
  if tree.home.isPrefixOf place then
    String.intercalate "/" (tree.base :: place.drop tree.home.length)
  else "/" ++ String.intercalate "/" place

def isDirectory (tree : FileTree) (path : String) : Bool :=
  match tree.locate path with
  | .ok place => tree.isDirectoryAt place
  | .error _ => false

def isFile (tree : FileTree) (path : String) : Bool :=
  match tree.locate path with
  | .ok place =>
    match tree.node? place with
    | some (.file _) => true
    | _ => false
  | .error _ => false

def readText (tree : FileTree) (path : String) : Except FileError String :=
  match tree.locate path with
  | .error error => .error error
  | .ok place =>
    match tree.node? place with
    | some (.file bytes) =>
      match String.fromUTF8? bytes with
      | some text => .ok text
      | none => .error .invalidText
    | some .directory => .error .isADirectory
    | none => .error .notFound

def names (tree : FileTree) (path : String) : List String :=
  match tree.locate path with
  | .error _ => []
  | .ok place =>
    (tree.entries.filterMap (fun entry =>
      if place.isPrefixOf entry.1 then entry.1[place.length]? else none)).eraseDups

/-- The path a path stands for once `.` and `..` are followed; one that leads nowhere stays as it
is. -/
def normalize (tree : FileTree) (path : String) : String :=
  match tree.locate path with
  | .ok place => tree.pathOf place
  | .error _ => path

end FileTree

end TileScript
