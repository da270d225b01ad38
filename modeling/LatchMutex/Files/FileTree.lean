import LatchMutex.Files.Path
import LatchMutex.Table
import LatchMutex.Text

namespace LatchMutex

/-!
# A tree of files

Directories and files by their place below the root.  A path is followed one
part at a time: every part but the last has to name a directory, a single dot
stays and a double dot goes up.  Paths that are not absolute start at the
current directory.
-/

/-- Place of a file or directory: the names that lead to it from the root, each behind a slash.
The root has no name. -/
abbrev Place := String

namespace Place

/-- The root. -/
def root : Place := ""

/-- Place of a name in a directory. -/
def child (place : Place) (name : String) : Place :=
  place ++ "/" ++ name

/-- Place of the directory that holds a place; the root holds itself. -/
def parent (place : Place) : Place :=
  String.ofList ((place.toList.reverse.dropWhile fun character => character ≠ '/').drop 1).reverse

/-- The place as an absolute path. -/
def path (place : Place) : String :=
  if place.isEmpty then "/" else place

end Place

/-- What stands at a place. -/
inductive FileNode where
  | directory
  | file (content : List UInt8)
  deriving Repr, DecidableEq, Inhabited

/-- Why a path cannot be used. -/
inductive FileError where
  | notFound
  | alreadyExists
  | notDirectory
  | isDirectory
  | nameTooLong
  | invalidName
  | invalidText
  deriving Repr, DecidableEq, Inhabited

/-- Wording of a file error. -/
def FileError.message : FileError → String
  | .notFound => "no such file or directory"
  | .alreadyExists => "file exists"
  | .notDirectory => "not a directory"
  | .isDirectory => "is a directory"
  | .nameTooLong => "file name too long"
  | .invalidName => "file name contains a NUL byte"
  | .invalidText => "stream did not contain valid UTF-8"

/-- All files and directories, and the current directory. -/
structure FileTree where
  nodes : Table Place FileNode := {}
  current : Place := Place.root
  deriving Repr, DecidableEq, Inhabited

namespace FileTree

/-- Most bytes of a name. -/
def longestName : Nat := 255

/-- Most bytes of a path. -/
def longestPath : Nat := 4095

/-- What stands at a place; the root is a directory. -/
def node? (tree : FileTree) (place : Place) : Option FileNode :=
  if place.isEmpty then some .directory else tree.nodes.find? place

/-- Text of the current directory. -/
def currentPath (tree : FileTree) : String :=
  tree.current.path

/-- Where a path starts. -/
def startOf (tree : FileTree) (path : String) : Place :=
  if Path.isAbsolute path then Place.root else tree.current

/-- Place that a path leads to if all the directories on its way are there. -/
def destination (tree : FileTree) (path : String) : Place :=
  (Path.parts path).foldl
    (fun place part =>
      if part = "." then place
      else if part = ".." then place.parent
      else place.child part)
    (tree.startOf path)

/-- Follow parts from a directory; the last one need not exist. -/
def follow (tree : FileTree) (place : Place) : List String → Except FileError Place
  | [] => .ok place
  | part :: rest =>
      if part = "." then
        tree.follow place rest
      else if part = ".." then
        tree.follow place.parent rest
      else if longestName < part.utf8ByteSize then
        .error .nameTooLong
      else
        let child := place.child part
        if rest.isEmpty then
          .ok child
        else
          match tree.node? child with
          | some .directory => tree.follow child rest
          | some (.file _) => .error .notDirectory
          | none => .error .notFound

/-- Place that a path names. -/
def locate (tree : FileTree) (path : String) : Except FileError Place :=
  if path.isEmpty then
    .error .notFound
  else if path.toList.contains '\x00' then
    .error .invalidName
  else if longestPath < path.utf8ByteSize then
    .error .nameTooLong
  else
    tree.follow (tree.startOf path) (Path.parts path)

/-- Content of a file. -/
def read (tree : FileTree) (path : String) : Except FileError (List UInt8) := do
  let place ← tree.locate path
  match tree.node? place with
  | none => .error .notFound
  | some .directory => .error .isDirectory
  | some (.file content) =>
      if Path.namesDirectory path then .error .notDirectory else .ok content

/-- Text of a file. -/
def readText (tree : FileTree) (path : String) : Except FileError String := do
  let content ← tree.read path
  match Text.ofBytes? content with
  | some text => .ok text
  | none => .error .invalidText

/-- Create or replace a file. -/
def write (tree : FileTree) (path : String) (content : List UInt8) :
    Except FileError FileTree := do
  let place ← tree.locate path
  match tree.node? place with
  | some .directory => .error .isDirectory
  | some (.file _) =>
      if Path.namesDirectory path then
        .error .notDirectory
      else
        .ok { tree with nodes := tree.nodes.set place (.file content) }
  | none =>
      if Path.namesDirectory path then
        .error .isDirectory
      else
        .ok { tree with nodes := tree.nodes.set place (.file content) }

/-- Create or replace a file that holds a text. -/
def writeText (tree : FileTree) (path text : String) : Except FileError FileTree :=
  tree.write path (Text.toBytes text)

/-- Remove a file. -/
def remove (tree : FileTree) (path : String) : Except FileError FileTree := do
  let place ← tree.locate path
  match tree.node? place with
  | none => .error .notFound
  | some .directory => .error .isDirectory
  | some (.file _) =>
      if Path.namesDirectory path then
        .error .notDirectory
      else
        .ok { tree with nodes := tree.nodes.erase place }

/-- Whether a path names a directory. -/
def hasDirectory (tree : FileTree) (path : String) : Bool :=
  match tree.locate path with
  | .ok place => tree.node? place = some .directory
  | .error _ => false

/-- Make one directory; all those above it have to be there. -/
def makeDirectory (tree : FileTree) (path : String) : Except FileError FileTree := do
  let place ← tree.locate path
  match tree.node? place with
  | some _ => .error .alreadyExists
  | none => .ok { tree with nodes := tree.nodes.set place .directory }

/-- Make one directory, unless it is there already. -/
def ensureDirectory (tree : FileTree) (path : String) : Except FileError Unit × FileTree :=
  match tree.makeDirectory path with
  | .ok made => (.ok (), made)
  | .error reason => (if tree.hasDirectory path then .ok () else .error reason, tree)

/-- Make the first directory of a list; where one above it is missing, make the others first. -/
def ensureFirst (tree : FileTree) : List String → Except FileError Unit × FileTree
  | [] => (.ok (), tree)
  | path :: above =>
      match tree.ensureDirectory path with
      | (.error .notFound, _) =>
          match tree.ensureFirst above with
          | (.ok (), made) => made.ensureDirectory path
          | failed => failed
      | done => done

/-- Make a directory and all those above it that are missing; what was made before a failure
stays. -/
def makeDirectories (tree : FileTree) (path : String) : Except FileError Unit × FileTree :=
  tree.ensureFirst (Path.ancestors path)

/-- Whether a path names something. -/
def hasPath (tree : FileTree) (path : String) : Bool :=
  match tree.locate path with
  | .error _ => false
  | .ok place =>
      match tree.node? place with
      | none => false
      | some .directory => true
      | some (.file _) => !Path.namesDirectory path

/-- A tree that holds one directory, which is the current one. -/
def withCurrent (path : String) : FileTree :=
  match makeDirectories {} path with
  | (.ok (), tree) => { tree with current := tree.destination path }
  | (.error _, _) => {}

end FileTree

end LatchMutex
