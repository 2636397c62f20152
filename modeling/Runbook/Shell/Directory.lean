import Runbook.Shell.Lookup

/-! # The working directory of a shell

A shell remembers the path by which it reached its working directory, and steps back along it.

* **`resolvePath`** — the path that a path leads to, seen from a directory.
* **`changeDirectory`** — the command `cd`.
* **`showDirectory`** — the command `pwd`. -/

namespace Runbook.Shell

/-- Follows the components of a path from the components of a directory, without looking at any
files. -/
def followComponents (before : List String) (components : List String) : List String :=
  components.foldl (fun before component =>
    if component.isEmpty ∨ component = "." then before
    else if component = ".." then before.dropLast
    else before ++ [component]) before

/-- The slashes that a path begins with, of which two count more than any other number. -/
def rootOf (path : String) : String :=
  if path.startsWith "//" && !path.startsWith "///" then "//" else "/"

/-- The components of a path behind its root. A slash at the end does not count, but all others do. -/
def componentsOf (path : String) : List String :=
  let text := path.toList.drop (rootOf path).length
  let text := if text.getLast? == some '/' then text.dropLast else text
  if text.isEmpty then [] else FileTree.pieces (String.ofList text)

/-- The path that a path leads to, seen from a directory. -/
def resolvePath (directory path : String) : String :=
  if path.startsWith "/" then
    rootOf path ++ String.intercalate "/" (followComponents [] (FileTree.pieces path))
  else
    let components := followComponents (componentsOf directory) (FileTree.pieces path)
    rootOf directory ++ String.intercalate "/" components

/-- Makes a place the working directory, and a path the one by which it was reached. -/
def enterPlace (place : Place) (directory : String) : Act Unit := do
  let former := (← get).directory
  Act.assign "OLDPWD" (some former) true false
  modify fun session => { session with place, directory }
  Act.assign "PWD" (some directory) true false

/-- Whether the last of several options that exclude one another is the one for places. -/
def isPhysical (options : List (Char × String)) : Bool :=
  (options.getLast?.map Prod.fst) == some 'P'

/-- Tries to change the working directory. -/
def tryEnter (physical : Bool) (path : String) : Act Bool := do
  let session ← get
  let target := if physical then path else resolvePath session.directory path
  match session.system.tree.directory session.place target with
  | .error _ => pure false
  | .ok place => do
    enterPlace place (if physical then FileTree.placeText place else target)
    pure true

/-- Whether a path is not looked for in other directories. -/
def isAnchored (path : String) : Bool :=
  path.startsWith "/" || path = "." || path = ".." || path.startsWith "./" || path.startsWith "../"

/-- The first path among those at which a directory is looked for that leads to one, and whether
it was found elsewhere. The empty path is the directory in which the search goes on. -/
def findDirectory (session : Session) (path : String) : String × Bool :=
  let directories := match session.valueOf? "CDPATH" with
    | some text => if isAnchored path then [] else FileTree.directories text
    | none => []
  let path := if path.isEmpty then "." else path
  let found := directories.find? fun directory =>
    session.system.tree.isDirectory session.place (FileTree.join directory path)
  match found with
  | some directory => (FileTree.join directory path, !directory.isEmpty)
  | none => (path, false)

/-- The command `cd`. -/
def changeDirectory (arguments : List String) : Act Nat := do
  let (options, others) ← scanOptions ['L', 'P'] [] arguments
  let session ← get
  let (path, back) := match others.head? with
    | none => ((session.valueOf? "HOME").getD "", false)
    | some "-" => ((session.valueOf? "OLDPWD").getD "", true)
    | some path => (path, false)
  let (target, elsewhere) := findDirectory session path
  if ← tryEnter (isPhysical options) target then
    if back || elsewhere then Act.sayLine (← get).directory
    pure 0
  else Act.fail ("can't cd to " ++ if path.isEmpty then "." else path)

/-- The command `pwd`. -/
def showDirectory (arguments : List String) : Act Nat := do
  let (options, _) ← scanOptions ['L', 'P'] [] arguments
  let session ← get
  Act.sayLine (if isPhysical options then FileTree.placeText session.place else session.directory)
  pure 0

/-- The path by which a shell that starts reached its working directory: the one that it was told if
that leads there. -/
def startingDirectory (system : System) (place : Place) (told : Option String) : String :=
  match told with
  | some path =>
    if path.startsWith "/" && (system.tree.directory [] path).toOption == some place then path
    else FileTree.placeText place
  | none => FileTree.placeText place

end Runbook.Shell
