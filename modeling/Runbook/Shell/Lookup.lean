import Runbook.Machine.Executable
import Runbook.Shell.Grammar
import Runbook.Shell.Options

/-! # What the names of commands mean

* **`Meaning`**, **`Act.locate`** — what a name means: a function, a command of the shell itself or a
  program.
* **`describe`** — says what a name means.
* **`quoted`** — a text between quotes. -/

namespace Runbook.Shell

/-- The commands of a shell itself that are part of the language. -/
def specialNames : List String := "local" :: Grammar.specialCommands

/-- The commands of a shell itself that are found before any program. -/
def regularNames : List String :=
  ["alias", "bg", "cd", "chdir", "command", "false", "fg", "getopts", "jobs", "kill", "pwd", "read",
    "true", "ulimit", "umask", "unalias", "wait"]

/-- The commands of a shell itself that could be programs as well. -/
def commonNames : List String := ["echo", "hash", "printf", "test", "[", "type"]

/-- The commands of a shell whose arguments may be assignments. -/
def assigningNames : List String := ["alias", "export", "local", "readonly"]

/-- Whether a name is one of a command of the shell itself. -/
def isBuiltin (name : String) : Bool :=
  specialNames.contains name || regularNames.contains name || commonNames.contains name

/-- What a name means. -/
inductive Meaning where
  /-- A function. -/
  | function (body : ShellCommand)
  /-- A command of the shell itself. -/
  | builtin
  /-- A program, which is the first one that can run among files. -/
  | program (paths : List String)
  /-- Nothing. -/
  | nothing (error : HostError)

/-- Why a program cannot run, in words. -/
def programReason : HostError → String
  | .missing | .notDirectory => "not found"
  | error => error.reason

/-- The file that runs when a name is called, if there is one in the directories of a search path. A
file that exists and cannot run counts more than one that is missing. -/
def findProgram (tree : FileTree) (base : Place) : (last : HostError) → (paths : List String) →
    Except HostError String
  | last, [] => .error last
  | last, path :: paths =>
    match tree.find base path with
    | .ok (_, .program _) | .ok (_, .file true _) => .ok path
    | .ok _ => findProgram tree base .denied paths
    | .error .missing | .error .notDirectory => findProgram tree base last paths
    | .error error => findProgram tree base error paths

/-- The paths at which a name is looked for. -/
def candidates (searchPath name : String) : List String :=
  (FileTree.directories searchPath).map fun directory => FileTree.join directory name

/-- The directories in which programs are looked for by default. -/
def defaultPath : String := "/usr/local/sbin:/usr/local/bin:/usr/sbin:/usr/bin:/sbin:/bin"

namespace Act

/-- What a name means as a program. A program that was found on the usual way is remembered. -/
def locateProgram (searchPath : Option String) (name : String) : Act Meaning := do
  let session ← get
  if name.toList.contains '/' then pure (.program [name])
  else
    let paths := candidates (searchPath.getD session.searchPath) name
    let known := (session.tracked.lookup name).filter (·.startsWith "/")
    match if searchPath.isNone then known else none with
    | some path => pure (.program (paths.dropWhile (· != path)))
    | none =>
      match findProgram session.system.tree session.place .missing paths with
      | .error error => pure (.nothing error)
      | .ok path => do
        if searchPath.isNone then
          let others := session.tracked.filter fun entry => entry.1 != name
          set { session with tracked := others ++ [(name, path)] }
        pure (.program (paths.dropWhile (· != path)))

/-- What a name means. -/
def locate (functions : Bool) (searchPath : Option String) (name : String) : Act Meaning := do
  let session ← get
  match if functions then session.functions.lookup name else none with
  | some body => pure (.function body)
  | none => if isBuiltin name then pure .builtin else locateProgram searchPath name

end Act

/-- A text between quotes: single quotes, and double quotes around those that stand in it. -/
def quoted (text : String) : String :=
  let rec pieces : List (List Char) → List Char
    | [] => []
    | group :: groups =>
      match group with
      | '\'' :: _ => '"' :: group ++ '"' :: pieces groups
      | _ => '\'' :: group ++ '\'' :: pieces groups
  match text.toList.splitBy fun a b => (a == '\'') == (b == '\'') with
  | [] => "''"
  | groups =>
    -- quotes at the start stand behind an empty text
    let start := if text.startsWith "'" then ['\'', '\''] else []
    String.ofList (start ++ pieces groups)

/-- Says what a name means. Gives whether it means anything. -/
def describe (wordy : Bool) (searchPath : Option String) (name : String) : Act Bool := do
  let session ← get
  let answer (long short : String) : Act Bool := do
    Act.sayLine (if wordy then name ++ long else short)
    pure true
  if Grammar.reserved.contains name then answer " is a shell keyword" name
  else
    match session.aliases.lookup name with
    | some text =>
      answer (" is an alias for " ++ text) ("alias " ++ name ++ "=" ++ quoted text)
    | none =>
      let tracked := searchPath.isNone && (session.tracked.lookup name).isSome
      let meaning ← Act.locate true searchPath name
      let missing := name.toList.contains '/'
        && (session.system.tree.find session.place name).toOption.isNone
      match if missing then .nothing .missing else meaning with
      | .function _ => answer " is a shell function" name
      | .builtin =>
        answer (if specialNames.contains name then " is a special shell builtin"
          else " is a shell builtin") name
      | .program paths =>
        let path := paths.headD name
        answer ((if tracked then " is a tracked alias for " else " is ") ++ path) path
      | .nothing _ => do
        if wordy then Act.sayLine (name ++ ": not found")
        pure false

/-- The number that orders names in a table of some size. -/
def tableOrder (size : Nat) (name : String) : Nat :=
  let first := (name.toList.headD '\x00').toNat * 16
  (name.toList.foldl (fun total c => total + c.toNat) first % 32768) % size

/-- Entries in the order of a table of some size. -/
def inTableOrder (size : Nat) (entries : List (String × String)) : List (String × String) :=
  entries.mergeSort fun a b => tableOrder size a.1 ≤ tableOrder size b.1

end Runbook.Shell
