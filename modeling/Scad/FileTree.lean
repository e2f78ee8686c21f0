import Scad.FileSystem
import Scad.SortedMap

/-!
# File trees

A file system in memory: the tree of files and directories below a root, held as a map
from places to what is there, and the place of the working directory. The root is a
directory without an entry of its own. In key order a directory comes before what it
holds, so the entries of the map are a listing of the tree.

An absolute path begins at the root and any other one at the working directory. Its names
lead from there through directories only, and a name `..` leads to the directory above,
from the root to the root itself. There are no links. So it is told by the path where it
leads, and by the tree whether there is a way. Neither a path nor its names can be longer
than file systems allow.
-/

namespace Scad

inductive Node where
  | file (text : String)
  | directory
deriving DecidableEq, Repr

namespace FileTree

/-- The names from the root down to an entry. -/
abbrev Place := List String

namespace Place

/-- Where one more name of a path leads. -/
def step (place : Place) (name : String) : Place :=
  if name = ".." then place.dropLast else place ++ [name]

/-- Where names lead. -/
def walk (place : Place) (names : List String) : Place := names.foldl step place

/-- The places that names lead through, from the first to the last. -/
def along (place : Place) : List String → List Place
  | [] => [place]
  | name :: rest => place :: along (place.step name) rest

end Place

end FileTree

structure FileTree where
  nodes : SortedMap FileTree.Place Node
  /-- The working directory. -/
  workdir : FileTree.Place
deriving DecidableEq

namespace FileTree

/-- Nothing but the root, which is the working directory. -/
def empty : FileTree := ⟨∅, []⟩

instance : EmptyCollection FileTree := ⟨empty⟩

instance : Inhabited FileTree := ⟨empty⟩

/-! ## Looking up -/

def node? (t : FileTree) (place : Place) : Option Node :=
  if place = [] then some .directory else t.nodes.get? place

/-- The number of bytes that a path may have. -/
def maxPathSize : Nat := 4095

/-- The number of bytes that a name may have. -/
def maxNameSize : Nat := 255

/-- A path that a file system looks at. -/
def isPath (p : Path) : Bool :=
  !p.isEmpty && !p.text.toList.contains '\x00' && p.text.utf8ByteSize ≤ maxPathSize

/-- Where a path begins. -/
def start (t : FileTree) (p : Path) : Place := if p.isAbsolute then [] else t.workdir

/-- Where a path leads. -/
def place (t : FileTree) (p : Path) : Place := (t.start p).walk p.names

/-- The places that a path leads through on the way to its last name. -/
def above (t : FileTree) (p : Path) : List Place := (t.start p).along p.names.dropLast

/-- Where a path leads, if there are only directories on the way. -/
def follow? (t : FileTree) (p : Path) : Option Place :=
  if isPath p && (t.above p).all (t.node? · == some .directory) then some (t.place p) else none

/-- The last piece of a path names its entry, which then may be a file. -/
def namesFile (p : Path) : Bool := p.pieces.getLast? == p.names.getLast?

def readText? (t : FileTree) (p : Path) : Option String := do
  let place ← t.follow? p
  if !namesFile p then none
  match t.node? place with
  | some (.file text) => some text
  | _ => none

def hasEntry (t : FileTree) (p : Path) : Bool :=
  match t.follow? p with
  | none => false
  | some place =>
      match t.node? place with
      | none => false
      | some .directory => true
      | some (.file _) => namesFile p

/-- The entries in the order of the listing, directories with a separator
behind them and without a text. -/
def listing (t : FileTree) : List (String × Option String) :=
  t.nodes.entries.map fun e =>
    let path := "/".intercalate e.1
    match e.2 with
    | .file text => (path, some text)
    | .directory => (path ++ "/", none)

/-! ## Creating and writing -/

/-- The tree with a node at a place. -/
def insert (t : FileTree) (place : Place) (n : Node) : FileTree :=
  { t with nodes := t.nodes.insert place n }

/-- An entry of this name could be created. -/
def isCreatable (name : String) : Bool := name != ".." && name.utf8ByteSize ≤ maxNameSize

/-- Creates the directories that names lead through from a directory. What has been
created before a failure stays. -/
def createFrom (t : FileTree) (above : Place) : List String → Bool × FileTree
  | [] => (true, t)
  | name :: rest =>
      let place := above.step name
      match t.node? place with
      | some .directory => createFrom t place rest
      | some (.file _) => (false, t)
      | none =>
          if isCreatable name then createFrom (t.insert place .directory) place rest
          else (false, t)

def createDirectories (t : FileTree) (p : Path) : Bool × FileTree :=
  if isPath p && t.node? (t.start p) == some .directory then t.createFrom (t.start p) p.names
  else (false, t)

/-- Creates a file in a directory, or replaces the text of one. -/
def writeText (t : FileTree) (p : Path) (text : String) : Bool × FileTree :=
  match t.follow? p with
  | none => (false, t)
  | some place =>
      let mayWrite := namesFile p && t.node? place != some .directory &&
        p.names.getLast?.any isCreatable
      if mayWrite then (true, t.insert place (.file text)) else (false, t)

instance : FileSystem (StateM FileTree) where
  readText? p := fun t => (t.readText? p, t)
  hasEntry p := fun t => (t.hasEntry p, t)
  createDirectories p := fun t => t.createDirectories p
  writeText p text := fun t => t.writeText p text

end FileTree

end Scad
