import Runbook.Shell.Call
import Runbook.Shell.Directory
import Runbook.Shell.Redirect

/-! # Processes of a shell

* **`Launch`** — a program with all that it gets from whoever starts it.
* **`Session.start`** — a shell that begins.
* **`Session.child`**, **`Act.afterChild`** — a process within a shell, and what remains of it.
* **`findImage`** — what runs when a program is called from a shell. -/

namespace Runbook.Shell

/-- A program with all that it gets from whoever starts it. -/
structure Launch where
  /-- The program with its name and arguments. -/
  image : Image
  /-- Its environment variables. -/
  bindings : List (String × String)
  /-- Its working directory. -/
  place : Place
  /-- Its open files. -/
  wiring : Wiring
  /-- The signals that it does not get. -/
  ignored : List Nat
  /-- The permissions that its new files do not get. -/
  mask : Nat
  /-- How much of its resources it may have. -/
  limits : Limits
  /-- The process that becomes the program, if it does not get one of its own. -/
  process : Option Nat

namespace Session

/-- The variables of a shell that begins, the latest first. -/
def startingBindings (bindings : List (String × String)) (parent : Nat) :
    List (String × Variable) :=
  let given := bindings.filter fun (name, _) => Act.isName name
  let usual := [("PATH", defaultPath), ("PS1", "# "), ("PS2", "> "), ("PS4", "+ ")]
  let own := [("IFS", " \t\n"), ("OPTIND", "1"), ("PPID", toString parent)]
  let set (known : List (String × Variable)) (name value : String) (exported : Bool) :
      List (String × Variable) :=
    let former := (known.lookup name).any Variable.exported
    (name, ⟨some value, exported || former, false⟩) :: known.filter fun entry => entry.1 != name
  let start := usual.foldl (fun known (name, value) => set known name value false) []
  let start := given.foldl (fun known (name, value) => set known name value true) start
  own.foldl (fun known (name, value) => set known name value false) start

/-- A shell that begins. -/
def start (system : System) (launch : Launch) (process : Nat) : Session :=
  let parent := (system.processes.find? (· != process)).getD 1
  let bindings := startingBindings launch.bindings parent
  let told := (bindings.lookup "PWD").bind Variable.value
  let directory := startingDirectory system launch.place told
  { system
    wiring := launch.wiring
    place := launch.place
    directory
    bindings := ("PWD", ⟨some directory, true, false⟩) :: bindings.filter fun entry => entry.1 != "PWD"
    scopes := []
    functions := []
    aliases := []
    tracked := []
    documents := #[]
    name := launch.image.name
    command := none
    line := 0
    reached := 0
    arguments := []
    scan := Scan.start
    status := 0
    substituted := 0
    kept := none
    options := []
    traps := []
    ignored := launch.ignored
    jobs := []
    background := none
    loops := 0
    depth := 0
    jump := none
    process
    ownProcess := process
    mask := launch.mask
    limits := launch.limits
    buffer := [] }

/-- The exit code behind what has been done. An error counts even in the action for a signal. -/
def statusBehind {α : Type} (session : Session) : Except Ending α → Nat
  | .error .error => session.status
  | _ => session.kept.getD session.status

/-- Whether something is done when a signal comes or the shell ends. -/
def hasTraps (session : Session) : Bool := session.traps.any fun entry => !entry.2.isEmpty

/-- A process within a shell. Only signals that the shell does not get remain what they were. -/
def child (session : Session) : Session :=
  let (ownProcess, system) := session.system.begin
  { session with
    system, ownProcess, jobs := []
    traps := session.traps.filter fun entry => entry.2.isEmpty }

end Session

/-- Leaves processes to themselves. -/
def Session.leave (session : Session) (stages : List Stage) : Session :=
  let (number, others) := Job.release session.jobs
  let job : Job := ⟨number, stages, false, false, true⟩
  { session with background := some job.process, jobs := job :: others }

/-- What those who use a terminal send does not reach a process that is left to itself. -/
def leftAlone : Act Unit :=
  modify fun session => { session with ignored := [2, 3] ++ session.ignored }

namespace Act

/-- Ends if a signal has come that ends the process. Other signals wait. -/
def endIfKilled : Act Unit := do
  let session ← get
  let fatal := session.system.signals.find? fun (process, number) =>
    process = session.ownProcess && (session.traps.lookup number).isNone
      && !session.ignored.contains number && !Signal.isHarmless number
  match fatal with
  | some (_, number) => throw (.gone (.signal number))
  | none => pure ()

/-- Goes on behind processes for which the shell has waited. It has then seen all that ended, and for a
while the processes had a number among the jobs. -/
def awaited (ends : List Ended) : Act Unit := do
  noteEnds ends
  modify fun session =>
    let (_, others) := Job.release session.jobs
    { session with jobs := others.map fun job => { job with known := true } }

/-- Goes on behind a process within the shell: only what all programs share is as the process left
it. -/
def afterChild (before after : Session) : Act Unit := do
  set { before with system := after.system.finish after.ownProcess }

/-- A new open file that collects what is written. -/
def collection : Act Nat := do
  let session ← get
  let (number, system) := session.system.add (.sink (.collection []))
  set { session with system }
  pure number

/-- What has been written to an open file that collects it. -/
def collected (number : Nat) : Act Bytes := do pure ((← get).system.collected number)

/-- A new open file that reads bytes. -/
def supply (channel : Channel) : Act Nat := do
  let session ← get
  let (number, system) := session.system.add (.source channel)
  set { session with system }
  pure number

end Act

/-- What runs when the first of several files is run that can be. A failure other than that a file is
missing counts when none can be run. -/
def findImage (tree : FileTree) (base : Place) (words : List String) : (last : HostError) →
    (paths : List String) → Except HostError Image
  | last, [] => .error last
  | last, path :: paths =>
    match tree.imageOrScript base path (words.headD "") (words.drop 1) with
    | .ok image => .ok image
    | .error .missing | .error .notDirectory => findImage tree base words last paths
    | .error error => findImage tree base words error paths

/-- The exit code when a program cannot run. -/
def failureCode : HostError → Nat
  | .missing | .notDirectory | .tooManyLinks | .nameTooLong => 127
  | _ => 126

/-- The program that is to run when words are called, perhaps in the place of the shell, or nothing if
there is a complaint that it cannot. -/
def launch? (replacing : Bool) (paths words : List String) : Act (Option Launch) := do
  let session ← get
  match findImage session.system.tree session.place words .missing paths with
  | .ok image =>
    pure (some
      { image
        bindings := session.environment
        place := session.place
        wiring := session.wiring
        ignored := session.deaf
        mask := session.mask
        limits := session.limits
        process := if replacing then some session.ownProcess else none })
  | .error error => do
    Act.complain (words.headD "" ++ ": " ++ programReason error)
    Act.setStatus (failureCode error)
    pure none

/-- The next complete command of a script. -/
def nextCommand (source : Source) : Act (Complete × Source) := do
  let session ← get
  let source := { source with documents := session.documents, aliases := session.aliases }
  match Grammar.next.run source with
  | .ok (complete, source) => do
    set { session with documents := source.documents, reached := source.line }
    pure (complete, source)
  | .error fault => do
    set { session with line := fault.line, reached := fault.line }
    Act.fail fault.error.message

/-- Shows what has been read of a script, if that is asked for. -/
def echoSource (before after : Source) : Act Unit := do
  if (← get).has "verbose" then
    let text := before.rest.take (before.rest.length - after.rest.length)
    modify fun session =>
      { session with
        system := session.system.tryWrite session.wiring 2
          (Octets.toBytes (String.ofList text)) }

/-- The text before the trace of commands. -/
def tracePrompt (substitute : ShellCommand → Act Bytes) : Act String := do
  let text := ((← get).valueOf? "PS4").getD ""
  let surrounding : Surrounding := ⟨.document, true, false, none, false⟩
  let source := Source.ofText text.toList
  match (Lexer.readParts (Grammar.nestedAt (16 * text.length + 64)) (2 * text.length + 8) surrounding 0
      []).run source with
  | .ok (word, _) => expandText substitute .verbatim word
  | .error _ => pure text

/-- Shows a command before it runs, if that is asked for. -/
def traceCommand (substitute : ShellCommand → Act Bytes) (errors : Option Nat) (texts : List String) :
    Act Unit := do
  if (← get).has "xtrace" then
    let options := (← get).options
    setOption "xtrace" false
    let prompt ← tracePrompt substitute
    modify fun session => { session with options }
    match errors with
    | none => pure ()
    | some number =>
      modify fun session =>
        match session.system.writeFile number
            (Act.bytesOfLine (prompt ++ String.intercalate " " texts)) with
        | .ok system => { session with system }
        | .error _ => session

end Runbook.Shell
