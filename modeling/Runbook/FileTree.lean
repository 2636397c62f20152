import Runbook.Host

/-! # File trees

The files of a machine that is held in memory. Names and paths are octet texts. There are no symbolic
links: what stands at a place is reached from its directory by its own name alone, and two dots lead to
the directory that a place was reached from.

* **`FileTree`** — directories, files, programs and devices by place.
* **`FileTree.walk`** — the place that a path leads to.
* **`FileTree.find`** — what stands at the end of a path. -/

namespace Runbook

/-- A place in a file tree: the names on the way from the root. -/
abbrev Place := List String

/-- A file behind which no content is stored. -/
inductive Device where
  /-- It is always empty and swallows what is written to it. -/
  | nothing
  /-- It is always full. -/
  | full
  /-- It is what a descriptor of its user is. -/
  | descriptor (number : Nat)
  deriving DecidableEq, Repr

/-- What stands at a place. -/
inductive FileNode where
  /-- A directory. -/
  | directory
  /-- A file, which may be one that can be run. -/
  | file (runnable : Bool) (content : Bytes)
  /-- A program that the machine knows by itself. -/
  | program (name : String)
  /-- A device. -/
  | device (device : Device)
  deriving DecidableEq, Repr

/-- The files of a machine. -/
structure FileTree where
  /-- What stands at each place other than the root, the latest first. -/
  nodes : List (Place × FileNode)
  deriving Repr

namespace FileTree

/-- The pieces of a path between its slashes. -/
def pieces (path : String) : List String :=
  (path.toList.splitOnP (· == '/')).map String.ofList

/-- The text of a place. -/
def placeText (place : Place) : String := "/" ++ String.intercalate "/" place

/-- What stands at a place. -/
def node? (tree : FileTree) (place : Place) : Option FileNode :=
  if place.isEmpty then some .directory else tree.nodes.lookup place

/-- Puts something at a place. -/
def put (tree : FileTree) (place : Place) (node : FileNode) : FileTree :=
  ⟨(place, node) :: tree.nodes.filter fun entry => entry.1 != place⟩

/-- How many bytes a name may have. -/
def nameLimit : Nat := 255

/-- The place to which the pieces of a path lead from a directory. Whatever a piece is looked up in
must be a directory; the last place need not exist. -/
def follow (tree : FileTree) (place : Place) : List String → Except HostError Place
  | [] => .ok place
  | piece :: rest =>
    match tree.node? place with
    | none => .error .missing
    | some .directory =>
      if piece = "" ∨ piece = "." then follow tree place rest
      else if piece = ".." then follow tree place.dropLast rest
      else if nameLimit < piece.length then .error .nameTooLong
      else follow tree (place ++ [piece]) rest
    | some _ => .error .notDirectory

/-- The place to which a path leads from a directory. -/
def walk (tree : FileTree) (base : Place) (path : String) : Except HostError Place :=
  if path.isEmpty then .error .missing
  else if path.startsWith "/" then tree.follow [] (pieces path)
  else tree.follow base (pieces path)

/-- What stands at the end of a path, and the place. -/
def find (tree : FileTree) (base : Place) (path : String) : Except HostError (Place × FileNode) := do
  let place ← tree.walk base path
  match tree.node? place with
  | some node => .ok (place, node)
  | none => .error .missing

/-- Whether a path leads to a directory. -/
def isDirectory (tree : FileTree) (base : Place) (path : String) : Bool :=
  match tree.find base path with
  | .ok (_, .directory) => true
  | _ => false

/-- The directory at the end of a path. -/
def directory (tree : FileTree) (base : Place) (path : String) : Except HostError Place := do
  match ← tree.find base path with
  | (place, .directory) => .ok place
  | _ => .error .notDirectory

/-- The content of the file at the end of a path. -/
def read (tree : FileTree) (base : Place) (path : String) : Except HostError Bytes := do
  match ← tree.find base path with
  | (_, .file _ content) => .ok content
  | (_, .directory) => .error .isDirectory
  | (_, .program _) | (_, .device _) => .ok []

/-- Makes the directories on the way to a place, and the place itself. -/
def makeDirectory (tree : FileTree) (place : Place) : FileTree :=
  (place.foldl (fun (tree, done) name =>
    let here := done ++ [name]
    ((match tree.node? here with
      | none => tree.put here .directory
      | some _ => tree), here)) (tree, ([] : Place))).1

/-- Puts a file at a place and makes the directories on the way. -/
def addFile (tree : FileTree) (place : Place) (runnable : Bool) (content : Bytes) : FileTree :=
  (tree.makeDirectory place.dropLast).put place (.file runnable content)

/-- The names of the entries of a directory. -/
def names (tree : FileTree) (place : Place) : List String :=
  tree.nodes.filterMap fun (spot, _) =>
    if spot.dropLast = place then spot.getLast? else none

end FileTree

end Runbook
