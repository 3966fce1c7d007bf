import Reactor.Path

/-!
A tree of directories and plain files, without links. Paths are walked one component at a time,
so that a parent component needs the directory in front of it to exist. Removing a directory
takes away entries at and below its place and nothing else.
-/

namespace Reactor

abbrev Place := List String

inductive Node where
  | directory
  | file (content : List UInt8)
deriving DecidableEq

/-- Every entry but the root, which is always a directory. -/
structure FileTree where
  entries : List (Place × Node)
deriving Inhabited

inductive FileFault where
  | missing
  | notDirectory
  | isDirectory
  | nameTooLong
  | nulInName
  | notText
deriving DecidableEq

def FileFault.message : FileFault → String
  | .missing => "No such file or directory (os error 2)"
  | .notDirectory => "Not a directory (os error 20)"
  | .isDirectory => "Is a directory (os error 21)"
  | .nameTooLong => "File name too long (os error 36)"
  | .nulInName => "file name contained an unexpected NUL byte"
  | .notText => "stream did not contain valid UTF-8"

namespace FileTree

def empty : FileTree := ⟨[]⟩

/-- The tree of one directory and those that lead to it. -/
def ofDirectory (place : Place) : FileTree :=
  ⟨(List.range place.length).map fun index => (place.take (index + 1), .directory)⟩

def node? (tree : FileTree) (place : Place) : Option Node :=
  if place = [] then some .directory else tree.entries.lookup place

def requireDirectory (tree : FileTree) (place : Place) : Except FileFault Unit :=
  match tree.node? place with
  | some .directory => .ok ()
  | some (.file _) => .error .notDirectory
  | none => .error .missing

/-- The place that components lead to from `place`; all but the last have to be directories. -/
def walk (tree : FileTree) (place : Place) : List Path.Component → Except FileFault Place
  | [] => .ok place
  | .root :: rest => tree.walk [] rest
  | .current :: rest => do
    tree.requireDirectory place
    tree.walk place rest
  | .parent :: rest => do
    tree.requireDirectory place
    tree.walk place.dropLast rest
  | .name text :: rest => do
    tree.requireDirectory place
    if 255 < text.utf8ByteSize then .error .nameTooLong else tree.walk (place ++ [text]) rest

def locate (tree : FileTree) (working : Place) (path : String) : Except FileFault Place :=
  if path.toList.contains '\x00' then .error .nulInName
  else if path.isEmpty then .error .missing
  else if 4095 < path.utf8ByteSize then .error .nameTooLong
  else tree.walk working (Path.components path)

def find (tree : FileTree) (working : Place) (path : String) : Except FileFault (Place × Node) := do
  let place ← tree.locate working path
  match tree.node? place with
  | none => .error .missing
  | some .directory => .ok (place, .directory)
  | some (.file content) =>
    if Path.namesDirectory path then .error .notDirectory else .ok (place, .file content)

def hasPath (tree : FileTree) (working : Place) (path : String) : Bool :=
  (tree.find working path).isOk

def readText (tree : FileTree) (working : Place) (path : String) : Except FileFault String := do
  match ← tree.find working path with
  | (_, .directory) => .error .isDirectory
  | (_, .file content) =>
    match String.fromUTF8? ⟨content.toArray⟩ with
    | some text => .ok text
    | none => .error .notText

def put (tree : FileTree) (place : Place) (entry : Node) : FileTree :=
  ⟨(place, entry) :: tree.entries.filter (·.1 != place)⟩

/-- Makes the directories that components lead through, each where it is missing. Where one cannot
be made the fault is told, and those before it stay. -/
def makeDirectories (tree : FileTree) (place : Place) :
    List Path.Component → FileTree × Option FileFault
  | [] => (tree, none)
  | .root :: rest => tree.makeDirectories [] rest
  | .current :: rest => tree.makeDirectories place rest
  | .parent :: rest => tree.makeDirectories place.dropLast rest
  | .name text :: rest =>
    let inner := place ++ [text]
    match tree.node? inner with
    | some .directory => tree.makeDirectories inner rest
    | some (.file _) => (tree, some .notDirectory)
    | none =>
      if 255 < text.utf8ByteSize then (tree, some .nameTooLong)
      else (tree.put inner .directory).makeDirectories inner rest

def makeDirectory (tree : FileTree) (working : Place) (path : String) :
    FileTree × Option FileFault :=
  if path.toList.contains '\x00' then (tree, some .nulInName)
  else if 4095 < path.utf8ByteSize then (tree, some .nameTooLong)
  else tree.makeDirectories working (Path.components path)

/-- Writes a plain file, making the directories that lead to it; these stay also where the file
itself cannot be written. -/
def writeFile (tree : FileTree) (working : Place) (path : String) (content : List UInt8) :
    FileTree × Option FileFault :=
  match tree.makeDirectory working (Path.directory path) with
  | (tree, some fault) => (tree, some fault)
  | (tree, none) =>
    match tree.locate working path with
    | .error fault => (tree, some fault)
    | .ok place =>
      if Path.namesDirectory path || tree.node? place = some .directory then
        (tree, some .isDirectory)
      else
        (tree.put place (.file content), none)

/-- Takes away what is below a place. -/
def clear (tree : FileTree) (place : Place) : FileTree :=
  ⟨tree.entries.filter fun (other, _) => other == place || !place.isPrefixOf other⟩

def prune (tree : FileTree) (place : Place) : FileTree :=
  ⟨tree.entries.filter fun (other, _) => !place.isPrefixOf other⟩

/-- Empties a directory, then takes it away by its path. A path that leads through what the
directory held is then missing: the removal ends well, and the empty directory stays. -/
def removeDirectory (tree : FileTree) (working : Place) (path : String) :
    Except FileFault FileTree := do
  match ← tree.find working path with
  | (place, .directory) =>
    let cleared := tree.clear place
    if cleared.hasPath working path then .ok (cleared.prune place) else .ok cleared
  | (_, .file _) => .error .notDirectory

end FileTree

end Reactor
