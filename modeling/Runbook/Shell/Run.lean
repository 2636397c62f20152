import Runbook.Shell.Builtin
import Runbook.Shell.Process

/-! # Running shell scripts

Commands run one another, words are expanded while they run, and a script may read scripts of its own
making, so nothing but a bound on the depth ends all this.

* **`Course`** — how a command runs.
* **`evaluate`** — runs a command and gives its exit code.
* **`runText`** — runs a text as a script.
* **`runImage`** — runs a program. -/

namespace Runbook.Shell

/-- How a command runs. -/
structure Course where
  /-- Whether something depends on its success, so that a failure is no reason to end. -/
  tested : Bool
  /-- Whether the shell ends behind it. -/
  final : Bool
  deriving DecidableEq, Repr

namespace Course

/-- A command among others. -/
def plain : Course := ⟨false, false⟩

/-- A command on whose success something depends. -/
def condition : Course := ⟨true, false⟩

/-- A command behind which others follow. -/
def before (course : Course) : Course := { course with final := false }

/-- The last command of a shell. -/
def last (course : Course) : Course := { course with final := true }

end Course

/-- How a loop goes on behind a part of it. -/
inductive LoopEnd where
  /-- With the next part. -/
  | on
  /-- With the next round. -/
  | round
  /-- Not at all. -/
  | stop
  deriving DecidableEq, Repr

/-- How a loop goes on behind a part of it, after which the shell may go on elsewhere. -/
def loopEnd : Act LoopEnd :=
  modifyGet fun session =>
    match session.jump with
    | none => (.on, session)
    | some (.back _) => (.stop, session)
    | some (.leave loops) =>
      (.stop, { session with jump := if loops ≤ 1 then none else some (.leave (loops - 1)) })
    | some (.again loops) =>
      if loops ≤ 1 then (.round, { session with jump := none })
      else (.stop, { session with jump := some (.again (loops - 1)) })

/-- Whether the shell goes on elsewhere than with the next command. -/
def isJumping : Act Bool := do pure (← get).jump.isSome

/-- A step within one more loop. -/
def inLoop (body : Act Nat) : Act Nat := do
  modify fun session => { session with loops := session.loops + 1 }
  let status ← body
  modify fun session => { session with loops := session.loops - 1 }
  pure status

/-- How many functions may run within one another. -/
def depthLimit : Nat := 1000

/-- A step with the arguments of a function, within no loop. A function that would run too deep still
counts when its caller has ended. -/
def inFunction (arguments : List String) (body : Act Unit) : Act Unit := do
  modify fun session => { session with depth := session.depth + 1 }
  let before ← get
  if depthLimit < before.depth then
    Act.fail ("Maximum function recursion depth (" ++ toString depthLimit ++ ") reached")
  set { before with arguments, scan := Scan.start, loops := 0 }
  Act.ensuring body do
    modify fun session =>
      { session with
        arguments := before.arguments
        scan := before.scan
        loops := before.loops
        depth := session.depth - 1
        jump := match session.jump with
          | some (.back _) => none
          | jump => jump }

/-- A step as a command of the shell with a name. What it has written is handed over behind it. A
failure of a command that is not special ends only itself. -/
def asBuiltin (name : String) (special : Bool) (body : Act Nat) : Act Unit := do
  let former ← get
  modify fun session => { session with command := some name }
  let whole : Act Unit := do
    let status ← body
    if ← Act.flush then Act.setStatus status
    else do
      Act.complain (name ++ ": I/O error")
      Act.setStatus (status ||| 1)
  tryCatch
    (Act.ensuring whole (modify fun session =>
      { session with command := former.command, buffer := [] }))
    fun
      | .error =>
        if special then throw .error
        else modify fun session => { session with kept := former.kept }
      | ending => throw ending

/-- The commands whose patterns match a word, or nothing. -/
def chooseCase (substitute : ShellCommand → Act Bytes) (text : List Char) :
    List (List Word × Option ShellCommand) → Act (Option ShellCommand)
  | [] => pure none
  | (patterns, body) :: cases => do
    let rec matched : List Word → Act Bool
      | [] => pure false
      | pattern :: patterns => do
        if (← expandPattern substitute pattern).accepts text then pure true else matched patterns
    if ← matched patterns then pure body else chooseCase substitute text cases

/-- Gives variables values for a call, or for good. -/
def assignAll (substitute : ShellCommand → Act Bytes) (isolated exported : Bool) :
    List (String × Word) → Act (List String)
  | [] => pure []
  | (name, word) :: rest => do
    let value ← expandText substitute .value word
    if isolated then Act.localize (name ++ "=" ++ value) true
    else Act.assign name (some value) exported false
    pure ((name ++ "=" ++ value) :: (← assignAll substitute isolated exported rest))

/-- Notes the line in which a command stands. -/
def atLine (line : Nat) : Act Unit := modify fun session => { session with line }

/-- The program that a command of a pipeline calls is remembered by the shell itself. -/
def trackStage (command : ShellCommand) : Act Unit :=
  match command with
  | .simple _ _ ([.text name false] :: _) _ => do
    if Act.isName name then
      let _ ← Act.locate true none name
  | _ => pure ()

/-- The file of a name that `.` reads. -/
def sourcePath (name : String) : Act String := do
  if name.toList.contains '/' then pure name
  else
    let session ← get
    let isFile (path : String) : Bool :=
      match session.system.tree.find session.place path with
      | .ok (_, .file ..) | .ok (_, .program _) => true
      | _ => false
    match (candidates session.searchPath name).find? isFile with
    | some path => pure path
    | none => Act.fail (name ++ ": not found")

/-- The text of a file that is a script. A directory has none. -/
def scriptText (path : String) : Act (List Char) := do
  let session ← get
  match session.system.tree.read session.place path with
  | .ok bytes => pure (Octets.ofBytes (bytes.filter (· != 0))).toList
  | .error .isDirectory => pure []
  | .error error => Act.fail (openComplaint path .read error)

mutual

/-- Runs a program as a process of its own. -/
def runImage : (fuel : Nat) → Launch → StateM System Ended
  | 0, _ => pure (.code 126)
  | fuel + 1, launch => do
    let shared ← get
    let (process, system) := match launch.process with
      | some process => (process, shared)
      | none => shared.begin
    let ended ←
      if launch.image.program = "sh" then do
        let (ended, after) := (runShell fuel launch).run (Session.start system launch process)
        set after.system
        pure ended
      else do
        set system
        let code ← (ProgramCall.mk launch.image.name launch.image.arguments launch.bindings
          launch.place launch.wiring).run launch.image.program
        pure (.code code)
    modify fun system => system.finish process
    pure ended

/-- Runs a shell that begins. -/
def runShell : (fuel : Nat) → Launch → StateM Session Ended
  | 0, _ => pure (.code 126)
  | fuel + 1, launch => do
    let body : Act Unit := do
      let (others, _, script) ←
        changeOptions true (launch.image.arguments.length + 1) launch.image.arguments
      if (← get).has "interactive" then setOption "monitor" true
      if script then
        match others with
        | [] => Act.fail "-c requires an argument"
        | text :: rest => do
          modify fun session =>
            { session with name := rest.headD session.name, arguments := rest.drop 1 }
          settleOptions
          let goesOn := (← get).has "stdin"
          let _ ← runText fuel .plain text.toList
          if goesOn then readInput fuel
      else if others.isEmpty || (← get).has "stdin" then do
        setOption "stdin" true
        modify fun session => { session with arguments := others }
        settleOptions
        readInput fuel
      else do
        let path := others.headD ""
        let text ← scriptText path
        modify fun session => { session with name := path, arguments := others.drop 1 }
        settleOptions
        let _ ← runFile fuel text
    conclude fuel body

/-- Runs what the shell reads. -/
def readInput : (fuel : Nat) → Act Unit
  | 0 => throw .exit
  | fuel + 1 => do
    let session ← get
    let bytes ← match session.system.readAll session.wiring 0 with
      | .ok (bytes, system) => do
        set { session with system }
        pure bytes
      | .error _ => pure []
    let _ ← runFile fuel (Octets.ofBytes (bytes.filter (· != 0))).toList

/-- Runs a step as all that a process does, with what is done when the process ends. -/
def conclude : (fuel : Nat) → Act Unit → StateM Session Ended
  | 0, _ => pure (.code 126)
  | fuel + 1, body => do
    let result ← body.run
    match result with
    | .error (.gone ended) => pure ended
    | _ => do
      let session ← get
      let status := session.statusBehind result
      let others := session.traps.filter fun entry => entry.1 != 0
      match session.traps.lookup 0 with
      | none => pure (.code status)
      | some action => do
        set { session with traps := others, status, kept := some status, jump := none, loops := 0 }
        let result ← (runText fuel .plain action.toList).run
        match result with
        | .error (.gone ended) => pure ended
        | _ => do pure (.code ((← get).statusBehind result))

/-- Runs a step as a process within the shell, and gives how it ended. -/
def inChild : (fuel : Nat) → Act Unit → Act Ended
  | 0, _ => throw .exit
  | fuel + 1, body => do
    let before ← get
    let (ended, after) := (conclude fuel body).run before.child
    Act.afterChild before after
    Act.endIfKilled
    pure ended

/-- Does what is to be done when signals have come. -/
def handleSignals : (fuel : Nat) → Act Unit
  | 0 => throw .exit
  | fuel + 1 => do
    Act.endIfKilled
    if !(← isJumping) then
      let actions ← Act.receive
      let session ← get
      if !actions.isEmpty then
        let status := session.kept.getD session.status
        modify fun session => { session with kept := some status }
        actions.forM fun action => do
          let _ ← runText fuel .plain action.toList
          if (← get).jump != some (.back true) then Act.setStatus status
        modify fun after => { after with kept := session.kept }

/-- Runs a text as a script. -/
def runText : (fuel : Nat) → Course → List Char → Act Nat
  | 0, _, _ => throw .exit
  | fuel + 1, course, text => runSource fuel course (Source.ofText text) 0

/-- Runs what is left of a text as a script. The exit code is the one of the last command. -/
def runSource : (fuel : Nat) → Course → Source → (status : Nat) → Act Nat
  | 0, _, _, _ => throw .exit
  | fuel + 1, course, source, status => do
    match ← nextCommand source with
    | (.ending, _) => pure status
    | (.command command, source) => do
      let status ← evaluateOptional fuel course command status
      if ← isJumping then pure status else runSource fuel course source status

/-- Runs the text of a file as a script. Commands that go back end it. -/
def runFile : (fuel : Nat) → List Char → Act Nat
  | 0, _ => throw .exit
  | fuel + 1, text => do
    let status ← runLines fuel (Source.ofText text) 0
    modify fun session =>
      match session.jump with
      | some (.back _) => { session with jump := none }
      | _ => session
    pure status

/-- Runs what is left of a file as a script. -/
def runLines : (fuel : Nat) → Source → (status : Nat) → Act Nat
  | 0, _, _ => throw .exit
  | fuel + 1, source, status => do
    match ← nextCommand source with
    | (.ending, after) => do
      echoSource source after
      pure status
    | (.command command, after) => do
      echoSource source after
      let status ← evaluateOptional fuel .plain command status
      if ← isJumping then pure status else runLines fuel after status

/-- Runs a command if there is one. -/
def evaluateOptional : (fuel : Nat) → Course → Option ShellCommand → (status : Nat) → Act Nat
  | 0, _, _, _ => throw .exit
  | fuel + 1, course, command, status =>
    match command with
    | some command => evaluate fuel course command
    | none => do
      handleSignals fuel
      if course.final then Act.stop else pure status

/-- Runs a command and gives its exit code. -/
def evaluate : (fuel : Nat) → Course → ShellCommand → Act Nat
  | 0, _, _ => throw .exit
  | fuel + 1, course, command => do
    if (← get).has "noexec" then
      if course.final then Act.stop else pure (← get).status
    else
      handleSignals fuel
      let strict := (← get).has "errexit" && !course.tested && match command with
        | .simple .. | .subshell .. | .pipeline .. => true
        | _ => false
      let status ← evaluateKind fuel course command
      Act.setStatus status
      handleSignals fuel
      if (strict && status != 0) || course.final then Act.stop
      else pure (← get).status

/-- Runs a command by its kind and gives its exit code. -/
def evaluateKind : (fuel : Nat) → Course → ShellCommand → Act Nat
  | 0, _, _ => throw .exit
  | fuel + 1, course, command =>
    match command with
    | .simple line assignments words redirections =>
      evaluateSimple fuel course line assignments words redirections
    | .negation command => do
      let status ← evaluate fuel .condition command
      if ← isJumping then pure status else pure (if status = 0 then 1 else 0)
    | .both first second => do
      let status ← evaluate fuel .condition first
      if status != 0 || (← isJumping) then pure status else evaluate fuel course second
    | .either first second => do
      let status ← evaluate fuel .condition first
      if status = 0 || (← isJumping) then pure status else evaluate fuel course second
    | .sequence first second => do
      let status ← evaluate fuel course.before first
      if ← isJumping then pure status else evaluate fuel course second
    | .branch condition success failure => do
      let status ← evaluate fuel .condition condition
      if ← isJumping then pure status
      else if status = 0 then evaluate fuel course success
      else
        match failure with
        | some failure => evaluate fuel course failure
        | none => pure 0
    | .loop untilSuccess condition body =>
      inLoop (runLoop fuel course.before untilSuccess condition body 0)
    | .each line name words body => do
      atLine line
      let texts ← words.mapM (expandFields (substitute fuel))
      inLoop (runEach fuel course.before name body 0 texts.flatten)
    | .choice line word cases => do
      atLine line
      let text ← expandText (substitute fuel) .single word
      match ← chooseCase (substitute fuel) text.toList cases with
      | some body => evaluate fuel course body
      | none => pure 0
    | .redirected line body redirections => do
      atLine line
      let openings ← expandRedirections (substitute fuel) redirections
      undoing openings do
        if ← tryRedirect (substitute fuel) openings then evaluate fuel course.before body
        else pure 2
    | .subshell line body redirections => do
      atLine line
      let openings ← expandRedirections (substitute fuel) redirections
      let whole : Act Unit := do
        redirect (substitute fuel) openings
        let _ ← evaluate fuel course.last body
      if course.final && !(← get).hasTraps then
        whole
        throw .exit
      else
        let ended ← inChild fuel whole
        Act.awaited [ended]
        pure ended.status
    | .background _ command => do
      let input ← Act.supply (.device .nothing)
      let stages ← match command with
        | .pipeline commands =>
          runStages fuel leftAlone ⟨false, true⟩ (some input) commands
        | command =>
          pure [← runStage fuel ⟨false, true⟩ command do
            leftAlone
            rewire 0 input]
      modify fun session => session.leave stages
      pure 0
    | .pipeline commands => do
      let input := (← get).wiring.lookup 0
      let stages ← runStages fuel (pure ()) course.last input commands
      Act.awaited (stages.map Stage.ended)
      pure ((stages.getLast?.map fun stage => stage.ended.status).getD 0)
    | .function _ name body => do
      modify fun session =>
        { session with
          functions := (name, body) :: session.functions.filter fun entry => entry.1 != name }
      pure 0

/-- Runs the rounds of a loop. -/
def runLoop : (fuel : Nat) → Course → (untilSuccess : Bool) → (condition body : ShellCommand) →
    (status : Nat) → Act Nat
  | 0, _, _, _, _, _ => throw .exit
  | fuel + 1, course, untilSuccess, condition, body, status => do
    let found ← evaluate fuel .condition condition
    let isBack := match (← get).jump with
      | some (.back true) => true
      | _ => false
    let status := if isBack then found else status
    match ← loopEnd with
    | .stop => pure status
    | .round => runLoop fuel course untilSuccess condition body status
    | .on =>
      if (found = 0) == untilSuccess then pure status
      else
        let status ← evaluate fuel course body
        match ← loopEnd with
        | .stop => pure status
        | _ => runLoop fuel course untilSuccess condition body status

/-- Runs a command for each text. -/
def runEach : (fuel : Nat) → Course → (name : String) → (body : ShellCommand) → (status : Nat) →
    (texts : List String) → Act Nat
  | 0, _, _, _, _, _ => throw .exit
  | _ + 1, _, _, _, status, [] => pure status
  | fuel + 1, course, name, body, _, text :: texts => do
    Act.setVariable name text
    let status ← evaluate fuel course body
    match ← loopEnd with
    | .stop => pure status
    | _ => runEach fuel course name body status texts

/-- Runs a command as a process of its own, behind what prepares it. -/
def runStage : (fuel : Nat) → Course → ShellCommand → (prepare : Act Unit) → Act Stage
  | 0, _, _, _ => throw .exit
  | fuel + 1, course, command, prepare => do
    let process := (← get).system.nextProcess
    let ended ← inChild fuel do
      prepare
      let _ ← evaluate fuel course command
    pure ⟨process, ended⟩

/-- Runs commands each of which reads what the one before it writes, behind what prepares each. -/
def runStages : (fuel : Nat) → (prepare : Act Unit) → Course → (input : Option Nat) →
    List ShellCommand → Act (List Stage)
  | 0, _, _, _, _ => throw .exit
  | _ + 1, _, _, _, [] => pure []
  | fuel + 1, prepare, course, input, command :: commands => do
    trackStage command
    let output ← if commands.isEmpty then pure none else some <$> Act.collection
    let stage ← runStage fuel course command do
      prepare
      input.forM (rewire 0)
      output.forM (rewire 1)
    let next ← output.mapM fun output => do Act.supply (.supply (← Act.collected output))
    pure (stage :: (← runStages fuel prepare course next commands))

/-- What a command writes. -/
def substitute : (fuel : Nat) → ShellCommand → Act Bytes
  | 0, _ => throw .exit
  | fuel + 1, command => do
    let output ← Act.collection
    let ended ← inChild fuel do
      rewire 1 output
      let _ ← evaluate fuel ⟨false, true⟩ command
    Act.awaited [ended]
    modify fun session => { session with substituted := ended.status }
    Act.collected output

/-- Runs a simple command. -/
def evaluateSimple : (fuel : Nat) → Course → (line : Nat) → (assignments : List (String × Word)) →
    (words : List Word) → (redirections : List Redirection) → Act Nat
  | 0, _, _, _, _, _ => throw .exit
  | fuel + 1, course, line, assignments, words, redirections => do
    modify fun session => { session with line, substituted := 0 }
    let expanded ← expandCall (substitute fuel) [] words
    let call := expanded.call
    let special := call.special == some true
    let errors := (← get).wiring.lookup 2
    let openings ← expandRedirections (substitute fuel) redirections
    let body : Act Nat := do
      if !(← tryRedirect (substitute fuel) openings) then
        Act.setStatus 2
        if special then throw .error else pure 2
      else
        let assigned ←
          assignAll (substitute fuel) call.isIsolated (call.replacing && 1 < call.words.length)
            assignments
        traceCommand (substitute fuel) errors (assigned ++ expanded.fields)
        runCall fuel course call
        pure (← get).status
    let whole : Act Nat := if call.isIsolated then Act.locally body else body
    if call.replacing then do
      -- only what goes wrong undoes the redirections of a shell
      let former := (← get).wiring
      tryCatch whole fun ending => do
        modify fun session => { session with wiring := undo former session.wiring openings }
        throw ending
    else undoing openings whole

/-- Runs what words call. The exit code is noted. -/
def runCall : (fuel : Nat) → Course → Call → Act Unit
  | 0, _, _ => throw .exit
  | fuel + 1, course, call =>
    match call.words with
    | [] => do Act.setStatus (← get).substituted
    | name :: arguments => do
      match ← Act.locate call.functions call.searchPath name with
      | .nothing error => do
        Act.complain (name ++ ": " ++ programReason error)
        Act.setStatus 127
      | .function body =>
        inFunction arguments do
          let _ ← evaluate fuel course.before body
      | .builtin =>
        asBuiltin name (call.special == some true) (runSpecial fuel course name arguments)
      | .program paths =>
        if course.final && !(← get).hasTraps then replaceShell fuel paths call.words
        else
          match ← launch? false paths call.words with
          | none => pure ()
          | some launch => do
            let ended ← runLaunch fuel launch
            Act.setStatus ended.status
            Act.awaited [ended]

/-- Runs a program and waits for its end. -/
def runLaunch : (fuel : Nat) → Launch → Act Ended
  | 0, _ => throw .exit
  | fuel + 1, launch => do
    let session ← get
    let (ended, system) := (runImage fuel launch).run session.system
    set { session with system }
    Act.endIfKilled
    pure ended

/-- Runs a program in the place of the shell. -/
def replaceShell : (fuel : Nat) → (paths words : List String) → Act Unit
  | 0, _, _ => throw .exit
  | fuel + 1, paths, words => do
    match ← launch? true paths words with
    | none => Act.stop
    | some launch => throw (.gone (← runLaunch fuel launch))

/-- Runs a command of the shell itself, which may read a script or run another command. -/
def runSpecial : (fuel : Nat) → Course → (name : String) → (arguments : List String) → Act Nat
  | 0, _, _, _ => throw .exit
  | fuel + 1, course, name, arguments =>
    match name with
    | "eval" =>
      if arguments.isEmpty then pure 0
      else runText fuel course.before (String.intercalate " " arguments).toList
    | "." => do
      match ← withoutOptions arguments with
      | [] => pure 0
      | file :: _ => do
        let path ← sourcePath file
        let text ← scriptText path
        modify fun session => { session with command := some path }
        runFile fuel text
    | "exec" => do
      match arguments with
      | [] => pure 0
      | name :: arguments => do
        let session ← get
        let paths := if name.toList.contains '/' then [name]
          else candidates session.searchPath name
        replaceShell fuel paths (name :: arguments)
        pure 0
    | _ => runBuiltin name arguments

end

end Runbook.Shell
