import Runbook.Shell.Session

/-! # Options

* **`FoundOptions`**, **`scanOptions`** — the options among the arguments of a command of the shell.
* **`changeOptions`** — the options of the shell itself. -/

namespace Runbook.Shell

/-- What has been found at the start of arguments. -/
structure FoundOptions where
  /-- The options with their values. -/
  options : List (Char × String)
  /-- The other arguments, or the complaint about the next option. -/
  others : Except String (List String)

namespace FoundOptions

/-- What has been found with an option before it. -/
def behind (option : Char × String) (found : FoundOptions) : FoundOptions :=
  { found with options := option :: found.options }

/-- The complaint about a letter that is no option. -/
def unknown (letter : Char) : String := "Illegal option -" ++ String.singleton letter

/-- The options that letters behind a dash and the arguments behind them stand for. A value is the rest
of the letters or the next argument, behind which `next` goes on. -/
def ofLetters (letters valued : List Char) (arguments : List String)
    (next : List String → FoundOptions) : List Char → FoundOptions
  | [] => next arguments
  | c :: rest =>
    if valued.contains c then
      if !rest.isEmpty then (next arguments).behind (c, String.ofList rest)
      else
        match arguments with
        | value :: arguments => (next arguments).behind (c, value)
        | [] => ⟨[], .error ("No arg for -" ++ String.singleton c ++ " option")⟩
    else if letters.contains c then
      (ofLetters letters valued arguments next rest).behind (c, "")
    else ⟨[], .error (unknown c)⟩

/-- The options at the start of arguments. -/
def ofArguments (letters valued : List Char) : (fuel : Nat) → List String → FoundOptions
  | 0, arguments => ⟨[], .ok arguments⟩
  | _ + 1, [] => ⟨[], .ok []⟩
  | fuel + 1, argument :: arguments =>
    match argument.toList with
    | ['-', '-'] => ⟨[], .ok arguments⟩
    | '-' :: c :: rest =>
      ofLetters letters valued arguments (ofArguments letters valued fuel) (c :: rest)
    | _ => ⟨[], .ok (argument :: arguments)⟩

/-- The other arguments. -/
def checked (found : FoundOptions) : Act (List String) :=
  match found.others with
  | .ok others => pure others
  | .error complaint => Act.fail complaint

end FoundOptions

/-- The options at the start of arguments, where those of some letters have values. -/
def findOptions (letters valued : List Char) (arguments : List String) : FoundOptions :=
  FoundOptions.ofArguments letters valued (arguments.length + 1) arguments

/-- The options at the start of arguments with their values, and the other arguments. -/
def scanOptions (letters valued : List Char) (arguments : List String) :
    Act (List (Char × String) × List String) := do
  let found := findOptions letters valued arguments
  pure (found.options, ← found.checked)

/-- The first option at the start of arguments, or else the other arguments. -/
def firstOption (letters : List Char) (arguments : List String) :
    Act (Option Char × List String) :=
  match arguments with
  | [] => pure (none, [])
  | argument :: rest =>
    match argument.toList with
    | ['-', '-'] => pure (none, rest)
    | '-' :: c :: _ =>
      if letters.contains c then pure (some c, [])
      else Act.fail (FoundOptions.unknown c)
    | _ => pure (none, argument :: rest)

/-- The other arguments of a command that takes no options. -/
def withoutOptions (arguments : List String) : Act (List String) := do
  pure (← scanOptions [] [] arguments).2

/-! ### Options of the shell -/

/-- Turns an option on or off. -/
def setOption (name : String) (on : Bool) : Act Unit :=
  modify fun session =>
    let others := session.options.filter (· != name)
    { session with options := if on then name :: others else others }

/-- The sign before options that are turned on or off. -/
def optionSign (on : Bool) : String := if on then "-" else "+"

/-- Turns the option of a letter on or off. Only one way of editing lines is on. -/
def setLetter (on : Bool) (letter : Char) : Act Unit :=
  match optionNames.find? fun entry => entry.2 == some letter with
  | some (name, _) => do
    setOption name on
    if on && name = "vi" then setOption "emacs" false
    if on && name = "emacs" then setOption "vi" false
  | none => Act.fail ("Illegal option " ++ optionSign on ++ String.singleton letter)

/-- Text in a field of a width. -/
def padded (width : Nat) (text : String) : String :=
  text ++ String.ofList (List.replicate (width - text.length) ' ')

/-- Shows which options are on, or how to set them so. -/
def showOptions (on : Bool) : Act Unit := do
  let session ← get
  if on then Act.sayLine "Current option settings"
  optionNames.forM fun (name, _) =>
    Act.sayLine (if on then padded 16 name ++ (if session.has name then "on" else "off")
      else "set " ++ optionSign (session.has name) ++ "o " ++ name)

/-- Turns the option of a name on or off, or shows options if there is no name. -/
def setNamed (on : Bool) : Option String → Act Unit
  | none => showOptions on
  | some name =>
    if optionNames.any fun entry => entry.1 = name then setOption name on
    else Act.fail ("Illegal option -o " ++ name)

/-- Follows the letters of one argument, to some of which the following arguments belong. Gives what is
left of these, and whether a script is an argument itself. With `starting` the letters of a shell that
starts are known as well. -/
def followLetters (starting on : Bool) : List Char → (arguments : List String) →
    Act (List String × Bool)
  | [], arguments => pure (arguments, false)
  | letter :: letters, arguments => do
    if letter == 'c' && starting then do
      let (arguments, _) ← followLetters starting on letters arguments
      pure (arguments, true)
    else if letter == 'l' && starting then followLetters starting on letters arguments
    else if letter == 'o' then do
      setNamed on arguments.head?
      followLetters starting on letters (arguments.drop 1)
    else do
      setLetter on letter
      followLetters starting on letters arguments

/-- Changes the options of the shell by arguments. Gives the arguments behind the options, whether
these replace those of the shell, and whether a script is an argument itself. -/
def changeOptions (starting : Bool) : (fuel : Nat) → List String → Act (List String × Bool × Bool)
  | 0, arguments => pure (arguments, false, false)
  | _ + 1, [] => pure ([], false, false)
  | fuel + 1, argument :: rest => do
    match argument.toList with
    | ['-', '-'] => pure (rest, true, false)
    | ['-'] => do
      if !starting then
        setOption "xtrace" false
        setOption "verbose" false
      pure (rest, !rest.isEmpty, false)
    | sign :: letters =>
      if sign == '-' || sign == '+' then do
        let (rest, script) ← followLetters starting (sign == '-') letters rest
        let (others, replaced, more) ← changeOptions starting fuel rest
        pure (others, replaced, script || more)
      else pure (argument :: rest, true, false)
    | [] => pure (argument :: rest, true, false)

/-- Turns the control of jobs off again, for which a terminal is needed. A process within the shell does
not look for one. -/
def settleOptions : Act Unit := do
  let session ← get
  if session.has "monitor" && session.ownProcess = session.process then
    Act.complain "can't access tty; job control turned off"
    setOption "monitor" false

end Runbook.Shell
