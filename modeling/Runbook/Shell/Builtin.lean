import Runbook.Machine.Program
import Runbook.Shell.Condition
import Runbook.Shell.Directory
import Runbook.Shell.Mask

/-! # The commands of a shell itself

* **`runBuiltin`** — runs a command of the shell itself, unless it reads a script or runs another
  command. -/

namespace Runbook.Shell

/-! ### Variables and arguments -/

/-- Shows variables that pass a test, each behind a text. -/
def showVariables (start : String) (test : Variable → Bool) : Act Unit := do
  let session ← get
  let shown := (session.bindings.filter fun entry => test entry.2).mergeSort fun a b => a.1 ≤ b.1
  shown.forM fun (name, known) =>
    Act.sayLine (start ++ name ++ match known.value with
      | some value => "=" ++ quoted value
      | none => "")

/-- The commands `export` and `readonly`. -/
def markVariables (command : String) (arguments : List String) : Act Nat := do
  let readonly := command = "readonly"
  let (option, names) ← firstOption ['p'] arguments
  if option.isSome || names.isEmpty then
    showVariables (command ++ " ") fun known => if readonly then known.readonly else known.exported
  else
    names.forM fun text => do
      let (name, value) := Act.splitAssignment text
      match value, (← get).bindings.lookup name with
      | none, some known =>
        modify fun session => session.bind name
          { known with
            exported := known.exported || !readonly, readonly := known.readonly || readonly }
      | value, _ => Act.assign name value (!readonly) readonly
  pure 0

/-- The command `unset`. -/
def unsetAll (arguments : List String) : Act Nat := do
  let (options, names) ← scanOptions ['v', 'f'] [] arguments
  if options.getLast?.map Prod.fst == some 'f' then
    modify fun session =>
      { session with
        functions := session.functions.filter fun entry => !names.contains entry.1 }
  else names.forM Act.unset
  pure 0

/-- Replaces the arguments of the script. -/
def setArguments (arguments : List String) : Act Unit :=
  modify fun session => { session with arguments, scan := Scan.start }

/-- The command `set`. -/
def changeShell (arguments : List String) : Act Nat := do
  if arguments.isEmpty then showVariables "" fun known => known.value.isSome
  else
    let (others, replaced, _) ← changeOptions false (arguments.length + 1) arguments
    settleOptions
    if replaced then setArguments others
  pure 0

/-- The command `shift`. -/
def shiftArguments (arguments : List String) : Act Nat := do
  let count ← match arguments.head? with
    | some text => Act.number text
    | none => pure 1
  let session ← get
  if session.arguments.length < count then Act.fail "can't shift that many"
  setArguments (session.arguments.drop count)
  pure 0

/-- The command `local`. -/
def makeLocal (arguments : List String) : Act Nat := do
  if (← get).scopes.isEmpty then Act.fail "not in a function"
  arguments.forM fun text => Act.localize text false
  pure 0

/-! ### Reading -/

/-- A line that is being read. -/
structure Line where
  /-- What has been read of it. -/
  fragments : List Fragment
  /-- How many bytes that took. -/
  length : Nat
  /-- Whether it ends with a line feed. -/
  complete : Bool

/-- The line at the start of bytes. Unless it is read as it is, a backslash takes the meaning of the
next character away. What has been read since then is `found`, in reverse. -/
def lineOf (raw : Bool) : (found : List Char) → (length : Nat) → Bytes → Line
  | found, length, [] => ⟨[piece found], length, false⟩
  | found, length, [byte] =>
    if byte = 10 then ⟨[piece found], length + 1, true⟩
    else if byte = 0 || (byte = 92 && !raw) then ⟨[piece found], length + 1, false⟩
    else ⟨[piece (Char.ofNat byte.toNat :: found)], length + 1, false⟩
  | found, length, byte :: next :: rest =>
    if byte = 10 then ⟨[piece found], length + 1, true⟩
    else if byte = 0 then lineOf raw found (length + 1) (next :: rest)
    else if byte = 92 && !raw then
      let line := lineOf raw [] (length + 2) rest
      let escaped : List Fragment := if next = 10 then []
        else [⟨[.char (Char.ofNat next.toNat) true], .nothing⟩]
      { line with fragments := piece found :: escaped ++ line.fragments }
    else lineOf raw (Char.ofNat byte.toNat :: found) (length + 1) (next :: rest)
where
  /-- Characters that may part words. -/
  piece (found : List Char) : Fragment := ⟨Cell.ofText false found.reverse, .separators⟩

/-- The command `read`. -/
def readLine (arguments : List String) : Act Nat := do
  let (options, names) ← scanOptions ['r'] ['p'] arguments
  if names.isEmpty then Act.fail "arg count"
  let session ← get
  let line ← match session.system.file? session.wiring 0 with
    | none => pure ⟨[], 0, false⟩
    | some (number, file) =>
      match session.system.unread file with
      | .error _ => pure ⟨[], 0, false⟩
      | .ok bytes => do
        let line := lineOf (options.any fun option => option.1 == 'r') [] 0 bytes
        set { session with
          system := session.system.modifyFile number fun file =>
            { file with offset := file.offset + line.length } }
        pure line
  let fields := session.separators.fields (some names.length) line.fragments
  names.zipIdx.forM fun (name, index) =>
    Act.setVariable name (String.ofList (Pattern.text (fields.getD index [])))
  pure (if line.complete then 0 else 1)

/-- What `getopts` finds. -/
structure FoundOption where
  /-- The letter that is given to the variable. -/
  letter : Char
  /-- The value of the option, if it has one. -/
  value : Option String
  /-- A complaint. -/
  complaint : Option String
  /-- Where to look next. -/
  next : Scan

/-- The option that stands next among arguments, if there is one, or where to look next. -/
def nextOption (letters : List Char) (arguments : List String) (scan : Scan) :
    Except Scan FoundOption :=
  let before := ((if scan.next ≤ 1 then none else arguments[scan.next - 2]?).getD "").toList
  let left := match scan.offset with
    | some offset => before.drop offset
    | none => []
  let silent := letters.head? == some ':'
  -- the letter with what follows it, and the number of the argument behind that
  let found : Except Nat (List Char × Nat) :=
    if !left.isEmpty then .ok (left, scan.next)
    else
      match arguments[scan.next - 1]?.map String.toList with
      | some ['-', '-'] => .error (scan.next + 1)
      | some ('-' :: c :: rest) => .ok (c :: rest, scan.next + 1)
      | _ => .error scan.next
  match found with
  | .error next => .error ⟨next, none⟩
  | .ok ([], next) => .error ⟨next, none⟩
  | .ok (c :: rest, next) =>
    let behind : Scan := ⟨next, some (((arguments[next - 2]?).getD "").length - rest.length)⟩
    let rec known : List Char → Option Bool
      | [] => none
      | d :: ':' :: more => if c == d then some true else known more
      | d :: more => if c == d then some false else known more
    match known letters with
    | none =>
      .ok ⟨'?', if silent then some (String.singleton c) else none,
        if silent then none else some ("Illegal option -" ++ String.singleton c), behind⟩
    | some false => .ok ⟨c, some "", none, behind⟩
    | some true =>
      if !rest.isEmpty then .ok ⟨c, some (String.ofList rest), none, ⟨next, none⟩⟩
      else
        match arguments[next - 1]? with
        | some value => .ok ⟨c, some value, none, ⟨next + 1, none⟩⟩
        | none =>
          if silent then .ok ⟨':', some (String.singleton c), none, ⟨next, none⟩⟩
          else .ok ⟨'?', none, some ("No arg for -" ++ String.singleton c ++ " option"),
            ⟨next, none⟩⟩

/-- The command `getopts`. -/
def nextOptionOf (arguments : List String) : Act Nat := do
  match arguments with
  | letters :: name :: given => do
    let session ← get
    let options := if given.isEmpty then session.arguments else given
    let scan := if options.length + 1 < session.scan.next then Scan.start else session.scan
    let (letter, next, code) ← match nextOption letters.toList options scan with
      | .error next => pure ('?', next, 1)
      | .ok found => do
        match found.complaint with
        | some complaint => Act.note complaint
        | none => pure ()
        match found.value with
        | some value => Act.setVariable "OPTARG" value
        | none => Act.unset "OPTARG"
        pure (found.letter, found.next, 0)
    Act.setVariable "OPTIND" (toString next.next)
    -- if the letter cannot be given to the variable, all begins again
    modify fun session => { session with scan := Scan.start }
    Act.setVariable name (String.singleton letter)
    modify fun session => { session with scan := next }
    pure code
  | _ => Act.fail "Usage: getopts optstring var [arg...]"

/-! ### Aliases and programs -/

/-- Shows an alias. -/
def showAlias (name text : String) : Act Unit := Act.sayLine (name ++ "=" ++ quoted text)

/-- The command `alias`. -/
def defineAliases (arguments : List String) : Act Nat := do
  if arguments.isEmpty then
    (inTableOrder 39 (← get).aliases).forM fun (name, text) => showAlias name text
    pure 0
  else
    arguments.foldlM (fun code argument => do
      let chars := argument.toList
      -- an equals sign at the start belongs to the name
      let rest := chars.drop 1
      if rest.contains '=' then
        let name := String.ofList (chars.take 1 ++ rest.takeWhile (· != '='))
        let text := String.ofList ((rest.dropWhile (· != '=')).drop 1)
        modify fun session =>
          let aliases :=
            if (session.aliases.lookup name).isSome then
              session.aliases.map fun entry => if entry.1 = name then (name, text) else entry
            else session.aliases ++ [(name, text)]
          { session with aliases }
        pure code
      else
        match (← get).aliases.lookup argument with
        | some text => do
          showAlias argument text
          pure code
        | none => do
          Act.note ("alias: " ++ argument ++ " not found")
          pure 1) 0

/-- The command `unalias`. -/
def forgetAliases (arguments : List String) : Act Nat := do
  let (option, names) ← firstOption ['a'] arguments
  if option.isSome then
    modify fun session => { session with aliases := [] }
    pure 0
  else
    names.foldlM (fun code name => do
      let session ← get
      if (session.aliases.lookup name).isSome then
        set { session with aliases := session.aliases.filter fun entry => entry.1 != name }
        pure code
      else do
        Act.note ("unalias: " ++ name ++ " not found")
        pure 1) 0

/-- The command `hash`. -/
def trackPrograms (arguments : List String) : Act Nat := do
  let (options, names) ← scanOptions ['r'] [] arguments
  if !options.isEmpty then
    modify fun session => { session with tracked := [] }
    pure 0
  else if names.isEmpty then
    (inTableOrder 31 (← get).tracked).forM fun (_, path) => Act.sayLine path
    pure 0
  else
    names.foldlM (fun code name => do
      modify fun session =>
        { session with tracked := session.tracked.filter fun entry => entry.1 != name }
      match ← Act.locate true none name with
      | .nothing error => do
        Act.complain (name ++ ": " ++ programReason error)
        pure 1
      | _ => pure code) 0

/-- The command `type`. -/
def describeAll (names : List String) : Act Nat :=
  names.foldlM (fun code name => do
    pure (if ← describe true none name then code else 127)) 0

/-- The command `command` when it does not run another one. -/
def describeCommand (arguments : List String) : Act Nat := do
  let (options, names) ← scanOptions ['p', 'v', 'V'] [] arguments
  let letters := options.map Prod.fst
  match names.head? with
  | some name =>
    if letters.contains 'v' || letters.contains 'V' then do
      let searchPath := if letters.contains 'p' then some defaultPath else none
      pure (if ← describe (letters.contains 'V') searchPath name then 0 else 127)
    else pure 0
  | none => pure 0

/-! ### Signals and processes -/

/-- The command `trap`. -/
def setTraps (arguments : List String) : Act Nat := do
  let arguments ← withoutOptions arguments
  let session ← get
  if arguments.isEmpty then
    (List.range Signal.count).forM fun number =>
      match session.traps.lookup number with
      | some action =>
        Act.sayLine ("trap -- " ++ quoted action ++ " " ++ (Signal.name? number).getD "")
      | none => pure ()
    pure 0
  else
    let first := arguments.headD ""
    let plain := arguments.length = 1 || (Signal.written? first).isSome
    let action := if plain || first = "-" then none else some first
    let rec setAll : List String → Act Nat
      | [] => pure 0
      | name :: names => do
        match Signal.number? 0 name with
        | none => do
          Act.note ("trap: " ++ name ++ ": bad trap")
          pure 1
        | some number => do
          modify fun session =>
            let others := session.traps.filter fun entry => entry.1 != number
            { session with
              traps := match action with
                | some action => (number, action) :: others
                | none => others }
          setAll names
    setAll (if plain then arguments else arguments.drop 1)

/-- The usage of the command `kill`. -/
def killUsage : String :=
  "Usage: kill [-s sigspec | -signum | -sigspec] [pid | job]... or\nkill -l [exitstatus]"

/-- Shows the names of signals. -/
def listSignals : List String → Act Nat
  | [] => do
    Act.sayLine "0"
    (List.range Signal.count).forM fun number =>
      if number = 0 then pure () else Act.sayLine ((Signal.name? number).getD "")
    pure 0
  | text :: _ => do
    let code ← Act.number text
    let number := if 128 < code then code - 128 else code
    match if number = 0 then none else Signal.name? number with
    | some name => do
      Act.sayLine name
      pure 0
    | none => Act.fail ("invalid signal number or exit status: " ++ text)

/-- The job that a text names. -/
def namedJob (text : String) : Act Job := do
  match Job.find (← get).jobs text with
  | .ok job => pure job
  | .error complaint => Act.fail complaint

/-- Changes the job of a number. -/
def changeJob (number : Nat) (change : Job → Job) : Act Unit :=
  modify fun session =>
    { session with
      jobs := session.jobs.map fun job => if job.number = number then change job else job }

/-- Sends a signal to processes. -/
def sendSignal (number : Nat) (targets : List String) : Act Nat :=
  targets.foldlM (fun code target => do
    -- the processes of a job are no group of their own
    let group := target.startsWith "-" || target.startsWith "%"
    let process ←
      if target.startsWith "%" then Job.process <$> namedJob target
      else Act.number (if group then (target.drop 1).toString else target)
    let session ← get
    match if group then none else session.system.send process number with
    | some system => do
      set { session with system }
      pure code
    | none => do
      Act.complain "No such process\n"
      pure 1) 0

/-- The command `kill`. -/
def kill (arguments : List String) : Act Nat := do
  let first := arguments.headD ""
  let direct := if first.startsWith "-" then Signal.number? 1 (first.drop 1).toString else none
  match direct with
  | some number =>
    if arguments.length < 2 then Act.fail killUsage
    else sendSignal number (arguments.drop 1)
  | none => do
    let found := findOptions ['l'] ['s'] arguments
    let options := found.options
    let chosen ← options.foldlM (fun chosen (letter, value) => do
      if letter == 's' then
        match Signal.number? 1 value with
        | some number => pure (some number)
        | none => Act.fail ("invalid signal number or name: " ++ value)
      else pure chosen) none
    let targets ← found.checked
    if options.any fun option => option.1 == 'l' then
      if chosen.isSome && !targets.isEmpty then Act.fail killUsage else listSignals targets
    else if targets.isEmpty then Act.fail killUsage
    else sendSignal (chosen.getD 15) targets

/-- Waits for a job, which has always ended. Says how, unless that is known. -/
def awaitJob (job : Job) : Act Nat := do
  if !job.known then Act.noteEnds job.ends
  changeJob job.number fun job => { job with known := true, awaited := true }
  pure job.status

/-- The command `wait`. -/
def wait (arguments : List String) : Act Nat := do
  let names ← withoutOptions arguments
  if names.isEmpty then
    modify fun session =>
      { session with
        jobs := session.jobs.map fun job => { job with known := true, awaited := true } }
    pure 0
  else
    names.foldlM (fun code text => do
      if text.startsWith "%" then awaitJob (← namedJob text)
      else
        let process ← Act.number text
        match (← get).jobs.find? fun job => job.process = process with
        | some job => awaitJob job
        | none => pure code) 127

/-- The command `jobs`. -/
def listJobs (arguments : List String) : Act Nat := do
  let (options, names) ← scanOptions ['l', 'p'] [] arguments
  let list (job : Job) : Act Unit :=
    match options.getLast?.map Prod.fst with
    | some 'p' => Act.sayLine (toString ((job.stages.head?.map Stage.process).getD 0))
    | option => do
      Act.sayLine (job.shown (option == some 'l'))
      changeJob job.number fun job => { job with known := true, listed := false }
  if names.isEmpty then ((← get).jobs.filter Job.listed).forM list
  else names.forM fun name => do list (← namedJob name)
  pure 0

/-- The commands `fg` and `bg`, which need more than a script has. -/
def resumeJob (arguments : List String) : Act Nat := do
  let names ← withoutOptions arguments
  let _ ← namedJob (names.headD "%")
  Act.fail ("job " ++ names.headD "(null)" ++ " not created under job control")

/-- The command `umask`. -/
def changeMask (arguments : List String) : Act Nat := do
  let (options, texts) ← scanOptions ['S'] [] arguments
  let session ← get
  match texts.head? with
  | none =>
    Act.sayLine (if options.isEmpty then Mask.numeral session.mask else Mask.symbols session.mask)
  | some text =>
    if (text.toList.headD ' ').isDigit then
      match Mask.ofNumeral? text with
      | some mask => set { session with mask }
      | none => Act.failNumber text
    else
      match Mask.ofSymbols? session.mask text with
      | some mask => set { session with mask }
      | none => Act.fail ("Illegal mode: " ++ text)
  pure 0

/-- The command `ulimit`. -/
def changeLimits (arguments : List String) : Act Nat := do
  let resources := Resource.all.map Resource.letter
  let (options, texts) ← scanOptions ("HSa".toList ++ resources) [] arguments
  let letters := options.map Prod.fst
  let letter := (letters.filter resources.contains).getLastD 'f'
  -- the last of the two letters counts; without them what is shown is what holds
  let kinds := letters.filter "HS".toList.contains
  let shown (limits : Limits) (letter : Char) : String :=
    let limit := limits.get letter
    (if kinds.getLast? == some 'H' then limit.highest else limit.current).text
  let session ← get
  let all := letters.contains 'a'
  match texts with
  | [] =>
    if all then
      Resource.all.forM fun resource =>
        let gap := String.ofList (List.replicate (21 - resource.name.length) ' ')
        Act.sayLine (resource.name ++ gap ++ shown session.limits resource.letter)
    else Act.sayLine (shown session.limits letter)
  | text :: more =>
    if all || !more.isEmpty then Act.fail "too many arguments"
    else
      match Amount.ofText? text with
      | none => Act.fail "bad number"
      | some amount =>
        let moved := session.limits.change letter amount
          (kinds.getLast? != some 'H') (kinds.getLast? != some 'S')
        match moved with
        | .ok limits => set { session with limits }
        | .error reason => Act.fail ("error setting limit (" ++ reason ++ ")")
  pure 0

/-! ### Ends -/

/-- The command `exit`. -/
def exitShell (arguments : List String) : Act Nat := do
  match arguments.head? with
  | some text => do
    let status ← Act.number text
    modify fun session => { session with status, kept := session.kept.map fun _ => status }
  | none => pure ()
  throw .exit

/-- The command `return`. -/
def returnBack (arguments : List String) : Act Nat := do
  let status ← match arguments.head? with
    | some text => Act.number text
    | none => do pure (← get).status
  modify fun session => { session with jump := some (.back !arguments.isEmpty) }
  pure status

/-- The commands `break` and `continue`. -/
def leaveLoops (again : Bool) (arguments : List String) : Act Nat := do
  let count ← match arguments.head? with
    | some text => do
      let count ← Act.number text
      if count = 0 then Act.failNumber text
      pure count
    | none => pure 1
  modify fun session =>
    let count := min count session.loops
    if count = 0 then session
    else { session with jump := some (if again then .again count else .leave count) }
  pure 0

/-! ### Output and conditions -/

/-- The escapes of `echo` as a command of the shell. -/
def echoRules : EscapeRules := ⟨true, true, false, false, false, true, false, false⟩

/-- The command `echo`. -/
def echo (arguments : List String) : Act Nat := do
  match arguments with
  | "-n" :: rest => Act.say (ProgramCall.echoWith (some echoRules) false rest)
  | _ => Act.say (ProgramCall.echoWith (some echoRules) true arguments)
  pure 0

/-- The command `printf`. -/
def printf (arguments : List String) : Act Nat := do
  let arguments ← withoutOptions arguments
  let written := Printf.Dialect.shell.run arguments
  written.messages.forM Act.complain
  Act.say written.out
  pure written.code

/-- The commands `test` and, with brackets, `[`. -/
def test (words : List String) : Act Nat := do
  let session ← get
  match Condition.holds ⟨session.system.tree, session.place⟩ words with
  | .ok holds => pure (if holds then 0 else 1)
  | .error fault => Act.fail fault.message

/-- Runs a command of the shell itself. -/
def runBuiltin (name : String) (arguments : List String) : Act Nat :=
  match name with
  | "alias" => defineAliases arguments
  | "break" => leaveLoops false arguments
  | "cd" | "chdir" => changeDirectory arguments
  | "command" => describeCommand arguments
  | "continue" => leaveLoops true arguments
  | "echo" => echo arguments
  | "exit" => exitShell arguments
  | "export" | "readonly" => markVariables name arguments
  | "false" => pure 1
  | "fg" | "bg" => resumeJob arguments
  | "getopts" => nextOptionOf arguments
  | "hash" => trackPrograms arguments
  | "jobs" => listJobs arguments
  | "kill" => kill arguments
  | "local" => makeLocal arguments
  | "printf" => printf arguments
  | "pwd" => showDirectory arguments
  | "read" => readLine arguments
  | "return" => returnBack arguments
  | "set" => changeShell arguments
  | "shift" => shiftArguments arguments
  | "test" => test arguments
  | "[" =>
    if (arguments.getLastD "").startsWith "]" then test arguments.dropLast
    else Act.fail "missing ]"
  | "times" => do
    let line := "0m0.000000s 0m0.000000s"
    Act.sayLine line
    Act.sayLine line
    pure 0
  | "trap" => setTraps arguments
  | "type" => describeAll arguments
  | "ulimit" => changeLimits arguments
  | "umask" => changeMask arguments
  | "unalias" => forgetAliases arguments
  | "unset" => unsetAll arguments
  | "wait" => wait arguments
  | _ => pure 0

end Runbook.Shell
