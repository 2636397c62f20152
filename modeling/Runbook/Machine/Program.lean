import Runbook.Machine.Concatenation
import Runbook.Machine.Printf
import Runbook.Machine.System

/-! # The programs of a machine

* **`ProgramCall`** — a program with its name, arguments, variables and open files.
* **`ProgramCall.run`** — what a program does to the system, and its exit code. -/

namespace Runbook

/-- A program that is to do its work. -/
structure ProgramCall where
  /-- The name by which it was called. -/
  name : String
  /-- Its arguments. -/
  arguments : List String
  /-- Its environment variables. -/
  bindings : List (String × String)
  /-- Its working directory. -/
  place : Place
  /-- Its open files. -/
  wiring : Wiring

namespace ProgramCall

/-- The bytes of a line. -/
def line (text : String) : Bytes := Octets.toBytes text ++ [10]

/-- Writes complaints, each with the name of the program before it. -/
def complain (call : ProgramCall) (messages : List String) : StateM System Unit :=
  modify fun system =>
    messages.foldl
      (fun system message => system.tryWrite call.wiring 2 (line (call.name ++ ": " ++ message)))
      system

/-- Writes to the standard output. Says whether that was possible. -/
def put (call : ProgramCall) (bytes : Bytes) : StateM System Bool := do
  if bytes.isEmpty then return true
  match (← get).write call.wiring 1 bytes with
  | .ok system => do
    set system
    return true
  | .error error => do
    call.complain ["write error: " ++ error.reason]
    return false

/-- Writes to the standard output and ends with a code, or with a failure if that is impossible. -/
def finish (call : ProgramCall) (bytes : Bytes) (code : Nat) : StateM System Nat := do
  return if ← call.put bytes then code else 1

/-! ### Options -/

/-- The hint after a wrong option. -/
def hint (call : ProgramCall) : String := "Try '" ++ call.name ++ " --help' for more information."

/-- What is wrong with an option. -/
inductive OptionFault where
  /-- There is no option of a letter. -/
  | unknownLetter (letter : Char)
  /-- There is no option of a name. -/
  | unknownName (name : String)
  /-- Several options have names that begin in the same way. -/
  | ambiguous (name : String) (candidates : List String)
  /-- An option takes no value. -/
  | unwantedValue (name : String)

/-- The wording of a fault. -/
def OptionFault.message : OptionFault → String
  | .unknownLetter letter => "invalid option -- '" ++ String.singleton letter ++ "'"
  | .unknownName name => "unrecognized option '--" ++ name ++ "'"
  | .ambiguous name candidates =>
    "option '--" ++ name ++ "' is ambiguous; possibilities:"
      ++ String.join (candidates.map fun candidate => " '--" ++ candidate ++ "'")
  | .unwantedValue name => "option '--" ++ name ++ "' doesn't allow an argument"

/-- The letter of the option with a long name, of which the beginning is enough. -/
def longLetter (names : List (String × Char)) (text : String) : Except OptionFault Char :=
  let name := String.ofList (text.toList.takeWhile (· != '='))
  let found := match names.filter fun entry => entry.1 = name with
    | [] => names.filter fun entry => entry.1.startsWith name
    | exact => exact
  match found with
  | [] => .error (.unknownName text)
  | [(name, letter)] =>
    if text.toList.contains '=' then .error (.unwantedValue name) else .ok letter
  | several => .error (.ambiguous text (several.map Prod.fst))

/-- The letters of the options among arguments, and the other arguments. -/
def splitOptions (letters : List Char) (names : List (String × Char)) :
    List String → Except OptionFault (List Char × List String)
  | [] => .ok ([], [])
  | argument :: rest =>
    match argument.toList with
    | ['-', '-'] => .ok ([], rest)
    | '-' :: '-' :: name => do
      let letter ← longLetter names (String.ofList name)
      let (more, others) ← splitOptions letters names rest
      .ok (letter :: more, others)
    | '-' :: letter :: found =>
      match (letter :: found).find? fun c => !letters.contains c with
      | some unknown => .error (.unknownLetter unknown)
      | none => do
        let (more, others) ← splitOptions letters names rest
        .ok (letter :: found ++ more, others)
    | _ => do
      let (more, others) ← splitOptions letters names rest
      .ok (more, argument :: others)

/-- Runs the rest of a program with its options, or complains about them. -/
def withOptions (call : ProgramCall) (letters : List Char) (names : List (String × Char))
    (body : List Char → List String → StateM System Nat) : StateM System Nat :=
  match splitOptions letters names call.arguments with
  | .ok (found, others) => body found others
  | .error fault => do
    call.complain [fault.message]
    modify fun system => system.tryWrite call.wiring 2 (line call.hint)
    return 1

/-! ### Programs -/

/-- The escapes of `echo`. -/
def echoRules : EscapeRules := ⟨true, true, true, false, false, true, false, true⟩

/-- Arguments, separated by blanks. -/
def echoWith (rules : Option EscapeRules) (newline : Bool) (arguments : List String) : Bytes :=
  let text := String.intercalate " " arguments
  let (bytes, ending) := match rules with
    | some rules => Escape.expand rules text
    | none => (Octets.toBytes text, .complete)
  if newline && ending == .complete then bytes ++ [10] else bytes

/-- Whether an argument is options of `echo`. -/
def isEchoOption (argument : String) : Bool :=
  match argument.toList with
  | '-' :: letters => !letters.isEmpty && letters.all fun c => "neE".toList.contains c
  | _ => false

/-- The program `echo`: the last of `-e` and `-E` says whether escapes count. A variable asks for a
stricter rule: escapes always count, and there are options only behind a lone `-n`. -/
def echo (call : ProgramCall) : StateM System Nat :=
  let strict := (call.bindings.lookup "POSIXLY_CORRECT").isSome
  let given := if strict && call.arguments.head? != some "-n" then []
    else call.arguments.takeWhile isEchoOption
  let options := given.flatMap fun text => text.toList.drop 1
  let escapes := strict || (options.reverse.find? fun c => c == 'e' || c == 'E') == some 'e'
  call.finish
    (echoWith (if escapes then some echoRules else none) (!options.contains 'n')
      (call.arguments.drop given.length)) 0

/-- The content of a file that is to be shown, or of the standard input. -/
def content (call : ProgramCall) (name : String) : StateT System (Except HostError) Bytes := do
  if name = "-" then fun system => system.readAll call.wiring 0
  else
    let system ← get
    let (number, after) ← system.openPath call.wiring call.place name .read
    match after.opened[number]? with
    | none => throw .badDescriptor
    | some file => after.unread file

/-- Whether a file is the one to which the standard output leads, and not at its end. -/
def isOutput (call : ProgramCall) (system : System) (name : String) : Bool :=
  let source : Option (Place × Nat) :=
    if name = "-" then
      match system.file? call.wiring 0 with
      | some (_, ⟨.file place, offset, _, _, _⟩) => some (place, offset)
      | _ => none
    else
      match system.tree.find call.place name with
      | .ok (place, .file ..) => some (place, 0)
      | _ => none
  match system.file? call.wiring 1, source with
  | some (_, ⟨.file target, _, _, _, _⟩), some (place, offset) =>
    match system.tree.node? place with
    | some (.file _ content) => place = target && offset < content.length
    | _ => false
  | _, _ => false

/-- How showing files one after another ends: how far they have been shown, and whether all could be
read. There is no answer if what is shown cannot be written. -/
def showFiles (call : ProgramCall) (options : ShowOptions) :
    (good : Bool) → ShowProgress → List String → StateM System (Option (Bool × ShowProgress))
  | good, progress, [] => pure (some (good, progress))
  | good, progress, name :: rest => do
    let system ← get
    if call.isOutput system name then
      call.complain [Quoting.name name ++ ": input file is output file"]
      call.showFiles options false progress rest
    else
      match (call.content name).run system with
      | .ok (bytes, system) => do
        set system
        let (shown, progress) := options.apply progress bytes
        if ← call.put shown then call.showFiles options good progress rest
        else pure none
      | .error error => do
        call.complain [Quoting.name name ++ ": " ++ error.reason]
        call.showFiles options false progress rest

/-- The program `cat`. -/
def cat (call : ProgramCall) : StateM System Nat :=
  call.withOptions "nbsETvetAu".toList ShowOptions.longNames fun letters names => do
    if ((← get).file? call.wiring 1).isNone then
      call.complain ["standard output: " ++ HostError.badDescriptor.reason]
      return 1
    let options := letters.foldl (fun options c => (options.add? c).getD options) ShowOptions.none
    let names := if names.isEmpty then ["-"] else names
    match ← call.showFiles options true .begin names with
    | none => return 1
    | some (good, progress) =>
      if !(← call.put (if progress.held then [13] else [])) then return 1
      if names.contains "-" && ((← get).file? call.wiring 0).isNone then
        call.complain ["closing standard input: " ++ HostError.badDescriptor.reason]
        return 1
      return if good then 0 else 1

/-- The program `printf`. -/
def printf (call : ProgramCall) : StateM System Nat := do
  let arguments := if call.arguments.head? = some "--" then call.arguments.drop 1 else call.arguments
  let written := (Printf.Dialect.program call.name).run arguments
  modify fun system =>
    written.messages.foldl
      (fun system message => system.tryWrite call.wiring 2 (line (call.name ++ ": " ++ message)))
      system
  call.finish written.out written.code

/-- Whether a text names a directory without going around. -/
def isLogical (system : System) (place : Place) (text : String) : Bool :=
  text.startsWith "/" && !((FileTree.pieces text).any fun piece => piece = "." || piece = "..")
    && (system.tree.directory [] text).toOption == some place

/-- The program `pwd`. -/
def workingDirectory (call : ProgramCall) : StateM System Nat :=
  call.withOptions "LP".toList [("logical", 'L'), ("physical", 'P')] fun letters others => do
    if !others.isEmpty then call.complain ["ignoring non-option arguments"]
    let physical := FileTree.placeText call.place
    let known := (call.bindings.lookup "PWD").getD ""
    let logical := letters.getLast? == some 'L' && isLogical (← get) call.place known
    call.finish (line (if logical then known else physical)) 0

/-- The names of the programs that work without a shell. -/
def names : List String := ["echo", "printf", "cat", "pwd", "true", "false"]

/-- Runs one of these programs. -/
def run (call : ProgramCall) (program : String) : StateM System Nat :=
  match program with
  | "echo" => call.echo
  | "printf" => call.printf
  | "cat" => call.cat
  | "pwd" => call.workingDirectory
  | "true" => pure 0
  | _ => pure 1

end ProgramCall

end Runbook
