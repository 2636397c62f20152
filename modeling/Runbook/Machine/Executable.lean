import Runbook.FileTree
import Runbook.Text.Octets

/-! # What runs when a file is run

A file that may be run is a program of the machine or a script. The first line of a script names the
program that reads it, which may be a script again.

* **`Shebang`** — the interpreter that a script names.
* **`Image`** — the program that runs, with its arguments.
* **`FileTree.image`** — what runs when the file at the end of a path is run.
* **`FileTree.search`** — the same for a name that is looked up in directories. -/

namespace Runbook

/-- The interpreter that a script names. -/
structure Shebang where
  /-- The path of the interpreter. -/
  path : String
  /-- What it gets before the script. -/
  argument : Option String
  deriving DecidableEq, Repr

namespace Shebang

/-- Whether a byte separates the words of a first line. -/
def isBlank (byte : UInt8) : Bool := byte = 32 || byte = 9

/-- How many bytes of a script are looked at. -/
def limit : Nat := 256

/-- The text of bytes up to a zero. -/
def textOf (bytes : Bytes) : String := Octets.ofBytes (bytes.takeWhile (· != 0))

/-- The interpreter that a line names behind its mark. The path ends at a blank, and whatever follows
is one argument. -/
def ofLine (line : Bytes) : Option Shebang :=
  let text := line.dropWhile isBlank
  let isEnd (byte : UInt8) : Bool := isBlank byte || byte = 0
  let path := text.takeWhile fun byte => !isEnd byte
  let argument := match text.dropWhile fun byte => !isEnd byte with
    | 0 :: _ => []
    | rest => rest.dropWhile isBlank
  if path.isEmpty then none
  else some ⟨textOf path, if argument.isEmpty then none else some (textOf argument)⟩

/-- The interpreter that the content of a file names. A line that is longer than what is looked at
must at least show where the path ends. -/
def ofContent (content : Bytes) : Option Shebang :=
  match content with
  | 35 :: 33 :: rest =>
    let seen := rest.take (limit - 2)
    let line := seen.takeWhile fun byte => byte != 10 && byte != 0
    if (seen.drop line.length).head? = some 10 then
      ofLine (line.reverse.dropWhile isBlank).reverse
    else
      let cut := seen.take (limit - 3)
      if content.length < limit || ((cut.dropWhile isBlank).any fun byte => isBlank byte || byte = 0)
      then ofLine cut else none
  | _ => none

end Shebang

/-- The program that runs. -/
structure Image where
  /-- The program. -/
  program : String
  /-- The name by which it is called. -/
  name : String
  /-- Its arguments. -/
  arguments : List String
  deriving DecidableEq, Repr

namespace FileTree

/-- How many scripts may be interpreters of one another. -/
def interpreterDepth : Nat := 6

/-- What runs when the file at the end of a path is run under a name with arguments. -/
def imageFrom (tree : FileTree) (base : Place) :
    (depth : Nat) → (path name : String) → (arguments : List String) → Except HostError Image
  | 0, _, _, _ => .error .tooManyLinks
  | depth + 1, path, name, arguments => do
    match ← tree.find base path with
    | (_, .program program) => .ok ⟨program, name, arguments⟩
    | (_, .file true content) =>
      match Shebang.ofContent content with
      | some shebang =>
        imageFrom tree base depth shebang.path shebang.path
          (shebang.argument.toList ++ path :: arguments)
      | none => .error .notProgram
    | _ => .error .denied

/-- What runs when the file at the end of a path is run under a name with arguments. -/
def image (tree : FileTree) (base : Place) (path name : String) (arguments : List String) :
    Except HostError Image :=
  tree.imageFrom base interpreterDepth path name arguments

/-- The path of the shell that reads scripts that name no interpreter. -/
def shellPath : String := "/bin/sh"

/-- The same, but a script that names no interpreter is read by a shell. -/
def imageOrScript (tree : FileTree) (base : Place) (path name : String) (arguments : List String) :
    Except HostError Image :=
  match tree.image base path name arguments with
  | .error .notProgram => tree.image base shellPath shellPath (path :: arguments)
  | result => result

/-- The path of a name in a directory; the directory without a name is the working directory. -/
def join (directory name : String) : String :=
  if directory.isEmpty then name else directory ++ "/" ++ name

/-- The directories of a search path. -/
def directories (searchPath : String) : List String :=
  (searchPath.toList.splitOnP (· == ':')).map String.ofList

/-- Runs a name that is looked up in directories, one after another. A file that is missing makes the
search go on, one that must not run as well, and any other failure ends it. When nothing is found, a
file that must not run counts more than the last failure. -/
def searchFrom (run : (path : String) → Except HostError Image) (name : String)
    (denied : Bool) (last : HostError) : List String → Except HostError Image
  | [] => .error (if denied then .denied else last)
  | directory :: rest =>
    match run (join directory name) with
    | .ok image => .ok image
    | .error .denied => searchFrom run name true .denied rest
    | .error .missing => searchFrom run name denied .missing rest
    | .error .notDirectory => searchFrom run name denied .notDirectory rest
    | .error error => .error error

/-- What runs when a name is called: the file of a path, or the first one on the search path. With
`scripts`, a script found there need not name an interpreter. -/
def search (tree : FileTree) (base : Place) (searchPath name : String) (scripts : Bool)
    (arguments : List String) : Except HostError Image :=
  if name.isEmpty then .error .missing
  else if name.toList.contains '/' then tree.image base name name arguments
  else if nameLimit < name.length then .error .nameTooLong
  else
    let run (path : String) : Except HostError Image :=
      if scripts then tree.imageOrScript base path name arguments
      else tree.image base path name arguments
    searchFrom run name false .missing (directories searchPath)

end FileTree

end Runbook
