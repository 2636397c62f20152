import Runbook.Machine.System
import Runbook.Shell.Fields
import Runbook.Shell.Job
import Runbook.Shell.Limit
import Runbook.Shell.Source

/-! # The state of a shell

* **`Variable`**, **`Session`** — what a shell remembers while it runs a script.
* **`Act`** — a step of a shell, which may end more than itself.
* **`Act.complain`**, **`Act.fail`** — what a shell says when something is wrong.
* **`Act.assign`**, **`Act.unset`**, **`Act.localize`** — changes of variables. -/

namespace Runbook.Shell

/-- A variable that a shell knows. -/
structure Variable where
  /-- Its value, if it is set. -/
  value : Option String
  /-- Whether programs see it. -/
  exported : Bool
  /-- Whether its value stays as it is. -/
  readonly : Bool
  deriving DecidableEq, Repr

/-- What is to be as it was when a function or a command ends. -/
inductive Former where
  /-- A variable. -/
  | binding (name : String) (former : Option Variable)
  /-- The options of the shell. -/
  | options (former : List String)

/-- Where a shell goes on instead of with the next command. -/
inductive Jump where
  /-- Behind the loop that many levels out. -/
  | leave (loops : Nat)
  /-- At the next round of the loop that many levels out. -/
  | again (loops : Nat)
  /-- Behind the function or the file, perhaps with a code that was chosen. -/
  | back (chosen : Bool)
  deriving DecidableEq, Repr

/-- The argument at which `getopts` looks next. -/
structure Scan where
  /-- The number of the argument. -/
  next : Nat
  /-- How many characters of the argument before that have been looked at, if more may follow. -/
  offset : Option Nat
  deriving DecidableEq, Repr

/-- The start of all arguments. -/
def Scan.start : Scan := ⟨1, none⟩

/-- What a shell remembers while it runs a script. -/
structure Session where
  /-- What it shares with other programs. -/
  system : System
  /-- Its open files. -/
  wiring : Wiring
  /-- The working directory. -/
  place : Place
  /-- The path by which the working directory was reached. -/
  directory : String
  /-- The variables, the latest first. -/
  bindings : List (String × Variable)
  /-- What is to be as it was, for each function and command that runs, the innermost first. -/
  scopes : List (List Former)
  /-- The functions, each with the line in which it stands. -/
  functions : List (String × ShellCommand)
  /-- The aliases, the oldest first. -/
  aliases : List (String × String)
  /-- The paths of the programs that have been found, the oldest first. -/
  tracked : List (String × String)
  /-- The here-documents of all that has been read. -/
  documents : Array Word
  /-- The name of the script. -/
  name : String
  /-- The command of the shell itself that runs, if one does. -/
  command : Option String
  /-- The line of the script in which the command stands. -/
  line : Nat
  /-- The line of the script that has been reached in reading. -/
  reached : Nat
  /-- The arguments of the script. -/
  arguments : List String
  /-- The argument at which `getopts` looks next. -/
  scan : Scan
  /-- The exit code of the last command. -/
  status : Nat
  /-- The exit code of the last command whose output was put in. -/
  substituted : Nat
  /-- The exit code that is in force again behind the action for a signal. -/
  kept : Option Nat
  /-- The options that are on. -/
  options : List String
  /-- What is done when a signal comes; number zero stands for the end of the shell. -/
  traps : List (Nat × String)
  /-- The signals that the shell never got. -/
  ignored : List Nat
  /-- The commands that were left to themselves, the latest first. -/
  jobs : List Job
  /-- The process that was last left to itself. -/
  background : Option Nat
  /-- How many loops run. -/
  loops : Nat
  /-- How many functions run. -/
  depth : Nat
  /-- Where the shell goes on, if not with the next command. -/
  jump : Option Jump
  /-- The number of the process of the shell. -/
  process : Nat
  /-- The number of the process that runs, which may be one within the shell. -/
  ownProcess : Nat
  /-- The permissions that new files do not get. -/
  mask : Nat
  /-- How much of its resources the shell may have. -/
  limits : Limits
  /-- What a command of the shell has written and not handed over, the latest first. -/
  buffer : List Bytes

/-- Why more than a command ends. -/
inductive Ending where
  /-- Something was wrong. -/
  | error
  /-- The shell is to end. -/
  | exit
  /-- The process of the shell has ended. -/
  | gone (ended : Ended)
  deriving DecidableEq, Repr

/-- A step of a shell. -/
abbrev Act := ExceptT Ending (StateM Session)

namespace Session

/-- The value of a variable, if it is set. -/
def valueOf? (session : Session) (name : String) : Option String := do
  (← session.bindings.lookup name).value

/-- Whether an option is on. -/
def has (session : Session) (option : String) : Bool := session.options.contains option

/-- Puts a variable in the place of one with the same name. -/
def bind (session : Session) (name : String) (known : Variable) : Session :=
  { session with
    bindings := (name, known) :: session.bindings.filter fun entry => entry.1 != name }

/-- Forgets a variable. -/
def forget (session : Session) (name : String) : Session :=
  { session with bindings := session.bindings.filter fun entry => entry.1 != name }

/-- The variables that programs see. -/
def environment (session : Session) : List (String × String) :=
  session.bindings.reverse.filterMap fun (name, known) =>
    if known.exported then known.value.map fun value => (name, value) else none

/-- The directories in which programs are looked for. -/
def searchPath (session : Session) : String := (session.valueOf? "PATH").getD ""

/-- The characters that part words. -/
def separators (session : Session) : Separators :=
  match session.valueOf? "IFS" with
  | some text => ⟨text.toList⟩
  | none => .usual

/-- What stands between arguments that are joined. -/
def joint (session : Session) : List Char :=
  match session.valueOf? "IFS" with
  | some text => text.toList.take 1
  | none => [' ']

/-- The signals that programs do not get. -/
def deaf (session : Session) : List Nat :=
  session.ignored ++ session.traps.filterMap fun (number, action) =>
    if action.isEmpty && number != 0 then some number else none

end Session

namespace Act

/-! ### Output -/

/-- The bytes of a line. -/
def bytesOfLine (text : String) : Bytes := Octets.toBytes text ++ [10]

/-- Writes a line to the standard error. -/
def note (text : String) : Act Unit :=
  modify fun session =>
    { session with system := session.system.tryWrite session.wiring 2 (bytesOfLine text) }

/-- Adds bytes to what a command of the shell has written. -/
def say (bytes : Bytes) : Act Unit :=
  modify fun session => { session with buffer := bytes :: session.buffer }

/-- Adds a line to what a command of the shell has written. -/
def sayLine (text : String) : Act Unit := say (bytesOfLine text)

/-- Hands over what a command of the shell has written. Says whether that was possible. -/
def flush : Act Bool :=
  modifyGet fun session =>
    let bytes := session.buffer.reverse.flatten
    let session := { session with buffer := [] }
    if bytes.isEmpty then (true, session)
    else
      match session.system.write session.wiring 1 bytes with
      | .ok system => (true, { session with system })
      | .error _ => (false, session)

/-! ### Complaints -/

/-- Writes a complaint of the shell. -/
def complain (text : String) : Act Unit := do
  let session ← get
  let command := match session.command with
    | some command => command ++ ": "
    | none => ""
  note (session.name ++ ": " ++ toString session.line ++ ": " ++ command ++ text)

/-- Sets the exit code of the last command. -/
def setStatus (status : Nat) : Act Unit := modify fun session => { session with status }

/-- Complains and gives up. -/
def fail {α : Type} (text : String) : Act α := do
  setStatus 2
  complain text
  let _ ← flush
  throw .error

/-- Ends the shell behind its last command, even in the action for a signal. -/
def stop {α : Type} : Act α := do
  modify fun session => { session with kept := session.kept.map fun _ => session.status }
  throw .exit

/-- Complains about a text that is no number. -/
def failNumber {α : Type} (text : String) : Act α := fail ("Illegal number: " ++ text)

/-- The number that a text writes. -/
def number (text : String) : Act Nat :=
  match Numeral.natural? text with
  | some n => pure n
  | none => failNumber text

/-- A step after which another one is made, even if more than itself ends. -/
def ensuring {α : Type} (body : Act α) (after : Act Unit) : Act α := do
  let result ← tryCatch body fun ending => do
    after
    throw ending
  after
  pure result

/-! ### Variables -/

/-- The variables that a shell has from its start on. -/
def fixedNames : List String :=
  ["IFS", "MAIL", "MAILPATH", "OPTIND", "PATH", "PS1", "PS2", "PS4"]

/-- Whether a text can be the name of a variable. -/
def isName (text : String) : Bool :=
  !text.isEmpty && !((text.toList.headD '0').isDigit) && text.toList.all Text.isNameChar

/-- What a change of a variable means to the shell itself. -/
def react (name : String) (value : Option String) : Act Unit :=
  match name with
  | "PATH" => modify fun session => { session with tracked := [] }
  | "OPTIND" => do
    let next ← match value with
      | some text => number text
      | none => pure 1
    modify fun session => { session with scan := ⟨max 1 next, none⟩ }
  | _ => pure ()

/-- Fails if the value of a variable stays as it is. -/
def guard (name : String) : Act Unit := do
  if ((← get).bindings.lookup name).any Variable.readonly then fail (name ++ ": is read only")

/-- The name of a variable in a text; an equals sign may stand behind it. -/
def nameIn (text : String) : Act String := do
  let name := String.ofList (text.toList.takeWhile (· != '='))
  if isName name then pure name else fail (name ++ ": bad variable name")

/-- Gives a variable a value, or none, and what else is asked for. -/
def assign (name : String) (value : Option String) (exported readonly : Bool) : Act Unit := do
  let name ← nameIn name
  guard name
  react name value
  modify fun session =>
    let former := (session.bindings.lookup name).getD ⟨none, false, false⟩
    let exported := exported || former.exported || session.has "allexport"
    session.bind name ⟨value, exported, former.readonly || readonly⟩

/-- Gives a variable a value. -/
def setVariable (name value : String) : Act Unit := assign name (some value) false false

/-- Whether a variable is known even if it is not set. -/
def isFixed (session : Session) (name : String) : Bool :=
  fixedNames.contains name || session.scopes.any fun scope => scope.any fun
    | .binding other _ => other = name
    | .options _ => false

/-- Takes the value of a variable away. -/
def unset (name : String) : Act Unit := do
  let name ← nameIn name
  guard name
  if ((← get).bindings.lookup name).isSome then react name none
  modify fun session =>
    match session.bindings.lookup name with
    | some known =>
      if isFixed session name then session.bind name { known with value := none }
      else session.forget name
    | none => session

/-- A text as a name and a value, if it has an equals sign. -/
def splitAssignment (text : String) : String × Option String :=
  let chars := text.toList
  let name := String.ofList (chars.takeWhile (· != '='))
  match chars.dropWhile (· != '=') with
  | _ :: value => (name, some (String.ofList value))
  | [] => (name, none)

/-- Notes that something is to be as it was when the innermost function or command ends. -/
def remember (former : Former) : Act Unit :=
  modify fun session =>
    match session.scopes with
    | scope :: scopes => { session with scopes := (former :: scope) :: scopes }
    | [] => session

/-- Makes a variable one of the innermost function or command, and perhaps gives it a value. -/
def localize (text : String) (exported : Bool) : Act Unit := do
  if text = "-" then remember (.options (← get).options)
  else
    let (name, value) := splitAssignment text
    let former := (← get).bindings.lookup name
    match former, value with
    | some _, none => pure ()
    | _, value => assign name value exported false
    remember (.binding name former)

/-- Makes something as it was. -/
def restore (former : Former) : Act Unit := do
  match former with
  | .options options => modify fun session => { session with options }
  | .binding name former => do
    if name = "PATH" then modify fun session => { session with tracked := [] }
    modify fun session =>
      match former with
      | some known => session.bind name known
      | none => session.forget name

/-- A step at whose end what it has made local is as it was. -/
def locally {α : Type} (body : Act α) : Act α := do
  modify fun session => { session with scopes := [] :: session.scopes }
  ensuring body do
    let scope := (← get).scopes.headD []
    scope.forM restore
    modify fun session => { session with scopes := session.scopes.drop 1 }

/-! ### Signals -/

/-- Says that signals have ended processes, where that is worth saying. -/
def noteEnds (ends : List Ended) : Act Unit :=
  ends.forM fun
    | .signal number => if Signal.isQuiet number then pure () else note (Signal.description number)
    | .code _ => pure ()

/-- Takes the signals that have come and that do something. A signal for which there is no action may
end the process. -/
def receive : Act (List String) := do
  let session ← get
  let (signals, system) := session.system.receive session.ownProcess
  set { session with system }
  signals.filterMapM fun number =>
    if session.ignored.contains number then pure none
    else
      match session.traps.lookup number with
      | some action => pure (if action.isEmpty then none else some action)
      | none => if Signal.isHarmless number then pure none else throw (.gone (.signal number))

end Act

/-- The options of a shell, with their letters. -/
def optionNames : List (String × Option Char) :=
  [("errexit", some 'e'), ("noglob", some 'f'), ("ignoreeof", some 'I'), ("interactive", some 'i'),
    ("monitor", some 'm'), ("noexec", some 'n'), ("stdin", some 's'), ("xtrace", some 'x'),
    ("verbose", some 'v'), ("vi", some 'V'), ("emacs", some 'E'), ("noclobber", some 'C'),
    ("allexport", some 'a'), ("notify", some 'b'), ("nounset", some 'u'), ("privileged", some 'p'),
    ("nolog", none), ("debug", none)]

/-- The letters of the options that are on. -/
def Session.optionLetters (session : Session) : List Char :=
  optionNames.reverse.filterMap fun (name, letter) =>
    if session.has name then letter else none

end Runbook.Shell
