import Runbook.Shell.Arithmetic
import Runbook.Shell.Glob
import Runbook.Shell.Session

/-! # Expansion

What the words of a script stand for. How a command is run whose output is put in is a parameter here.

* **`Manner`** — what is done with the parts of a word.
* **`expandParts`** — what the parts of a word come to.
* **`expandFields`**, **`expandText`**, **`expandPattern`** — a word as several words, as a text and
  as a pattern. -/

namespace Runbook.Shell

/-- What is done with the parts of a word. -/
structure Manner where
  /-- Whether the word is divided into fields. -/
  divided : Bool
  /-- Whether a tilde at the start stands for a directory. -/
  tilde : Bool
  /-- Whether a tilde behind a colon does so too. -/
  colons : Bool
  /-- Whether text without quotes is parted like the value of a parameter. -/
  parted : Bool

namespace Manner

/-- Words of a command. -/
def words : Manner := ⟨true, true, false, false⟩

/-- A single text. -/
def single : Manner := ⟨false, true, false, false⟩

/-- The value of a variable. -/
def value : Manner := ⟨false, true, true, false⟩

/-- A text without directories. -/
def verbatim : Manner := ⟨false, false, false, false⟩

/-- A word that takes the place of a parameter. -/
def inner (manner : Manner) : Manner := { manner with tilde := true, parted := true }

/-- A word that becomes a single text within another one. -/
def innerText (manner : Manner) : Manner :=
  { manner with divided := false, tilde := true, parted := false }

end Manner

/-! ### Parameters -/

/-- Arguments as one text. Where words are divided, a NUL stands between them. -/
def joinedArguments (session : Session) (apart : Bool) : List Char :=
  let joint := if apart then ['\x00'] else session.joint
  joint.intercalate (session.arguments.map String.toList)

/-- The value of a parameter, if it is set: an argument by its number, a property of the shell, or a
variable. -/
def parameter? (session : Session) (name : String) (divided quoted : Bool) : Option (List Char) :=
  let number (n : Nat) : List Char := Nat.toDigits 10 n
  match name with
  | "?" => some (number session.status)
  | "#" => some (number session.arguments.length)
  | "$" => some (number session.process)
  | "!" => session.background.map number
  | "-" => some session.optionLetters
  | "@" => some (joinedArguments session divided)
  | "*" => some (joinedArguments session (divided && !quoted))
  | _ =>
    if name.toList.all Char.isDigit then
      match Escape.number 10 name.toList with
      | 0 => some session.name.toList
      | n + 1 => session.arguments[n]?.map String.toList
    else (session.valueOf? name).map String.toList

/-- The value of a parameter as a part of a word. -/
def valueFragment (session : Session) (name : String) (quoted : Bool) (text : List Char) : Fragment :=
  let parting : Parting :=
    if !quoted then .separators
    else if name = "@" && !session.arguments.isEmpty then .arguments
    else .nothing
  ⟨Cell.ofText quoted text, parting⟩

/-- Whether a value is there and, perhaps, not empty. -/
def isUsable (orEmpty : Bool) (value : Option (List Char)) : Bool :=
  value.any fun text => !(orEmpty && text.isEmpty)

/-- The value of a parameter that must be set if unset ones are errors. -/
def checked (name : String) (value : Option (List Char)) : Act (Option (List Char)) := do
  if value.isNone && (← get).has "nounset" then Act.fail (name ++ ": parameter not set")
  pure value

/-! ### Text -/

/-- The home directory of a user; no name is the one of the shell. -/
def home? (session : Session) (user : List Char) : Option (List Char) :=
  if user.isEmpty then (session.valueOf? "HOME").map String.toList
  else if user = "root".toList then some "/root".toList
  else none

/-- Text without quotes. -/
def textFragments (manner : Manner) (text : List Char) : List Fragment :=
  if text.isEmpty then []
  else [⟨Cell.ofText false text, if manner.parted then .separators else .nothing⟩]

/-- Text that may begin with a tilde; `complete` says whether nothing of the word follows it. -/
def tildeFragments (session : Session) (manner : Manner) (complete : Bool) (text : List Char) :
    List Fragment :=
  match text with
  | '~' :: rest =>
    let user := rest.takeWhile (· != '/')
    let after := rest.drop user.length
    match if after.isEmpty && !complete then none else home? session user with
    | some home => ⟨Cell.ofText true home, .nothing⟩ :: textFragments manner after
    | none => textFragments manner text
  | _ => textFragments manner text

/-- Text without quotes in which tildes may stand for directories; `last` says whether nothing of the
word follows it. -/
def bareFragments (session : Session) (manner : Manner) (last : Bool) (text : List Char) :
    List Fragment :=
  if !manner.colons then
    if manner.tilde then tildeFragments session manner last text else textFragments manner text
  else
    let pieces := text.splitOnP (· == ':')
    let fragments := pieces.zipIdx.map fun (piece, index) =>
      let ending := index + 1 = pieces.length
      let found :=
        if index = 0 && !manner.tilde then textFragments manner piece
        else tildeFragments session manner (last || !ending) piece
      if ending then found else found ++ textFragments manner [':']
    fragments.flatten

/-- The text of what a command wrote, without the line feeds at its end. -/
def outputText (bytes : Bytes) : List Char :=
  let text := (Octets.ofBytes (bytes.filter (· != 0))).toList
  (text.reverse.dropWhile (· == '\n')).reverse

/-- The value of an arithmetic expression. The system ends a process that divides out of reach. -/
def evaluateArithmetic (expression : String) : Act (List Char) := do
  let session ← get
  let (result, assigned) := Arithmetic.evaluate session.valueOf? expression
  assigned.forM fun (name, value) => Act.setVariable name (toString value)
  match result with
  | .ok value => pure (toString value).toList
  | .error .overflow => throw (.gone (.signal 8))
  | .error fault => Act.fail (fault.message expression)

/-! ### Words -/

/-- The complaint about a parameter that is not set or, perhaps, empty. -/
def demandText (orEmpty : Bool) (complaint : Word) (text : String) : String :=
  if complaint.isEmpty then "parameter not set" ++ (if orEmpty then " or null" else "") else text

mutual

/-- What the parts of a word come to. -/
def expandParts (substitute : ShellCommand → Act Bytes) (manner : Manner) :
    List WordPart → Act (List Fragment)
  | [] => pure []
  | part :: parts => do
    let found ← expandPart substitute manner parts.isEmpty part
    match part with
    | .parameter _ (.before _) _ => pure found
    | _ => pure (found ++ (← expandParts substitute { manner with tilde := false } parts))

/-- What a part of a word comes to; `last` says whether nothing of the word follows it. -/
def expandPart (substitute : ShellCommand → Act Bytes) (manner : Manner) (last : Bool) :
    WordPart → Act (List Fragment)
  | .text text quoted => do
    if !quoted then pure (bareFragments (← get) manner last text.toList)
    else if text.isEmpty then pure [⟨[.mark], .nothing⟩]
    else pure [⟨Cell.ofText true text.toList, .nothing⟩]
  | .output command quoted => do
    let text ← match command with
      | some command => outputText <$> substitute command
      | none => pure []
    pure [⟨Cell.ofText quoted text, if quoted then .nothing else .separators⟩]
  | .arithmetic expression quoted => do
    let fragments ← expandParts substitute .verbatim expression
    let text ← evaluateArithmetic (Fragment.word fragments)
    pure [⟨Cell.ofText quoted text, if quoted then .nothing else .separators⟩]
  | .parameter name change quoted => expandParameter substitute manner name quoted change

/-- What a parameter comes to after a change. -/
def expandParameter (substitute : ShellCommand → Act Bytes) (manner : Manner) (name : String)
    (quoted : Bool) : ParameterChange → Act (List Fragment)
  | .none => do
    let session ← get
    let value ← checked name (parameter? session name manner.divided quoted)
    pure (value.map (valueFragment session name quoted)).toList
  | .before word => do
    let session ← get
    let value ← checked name (parameter? session name manner.divided quoted)
    let start := (value.map (valueFragment session name quoted)).toList
    pure (start ++ (← expandParts substitute { manner with tilde := false } word))
  | .unknown => Act.fail "Bad substitution"
  | .length => do
    let session ← get
    let value ← checked name (parameter? session name false quoted)
    pure [valueFragment session name quoted (Nat.toDigits 10 (value.getD []).length)]
  | .otherwise orEmpty word => do
    let session ← get
    let value := parameter? session name manner.divided quoted
    if isUsable orEmpty value then pure (value.map (valueFragment session name quoted)).toList
    else expandParts substitute manner.inner word
  | .instead orEmpty word => do
    let session ← get
    if isUsable orEmpty (parameter? session name false quoted) then
      expandParts substitute manner.inner word
    else pure [valueFragment session name quoted []]
  | .assign orEmpty word => do
    let value := parameter? (← get) name manner.divided quoted
    if !isUsable orEmpty value then
      let fragments ← expandParts substitute manner.innerText word
      Act.setVariable name (Fragment.word fragments)
    let session ← get
    let value := parameter? session name manner.divided quoted
    pure (value.map (valueFragment session name quoted)).toList
  | .demand orEmpty complaint => do
    let session ← get
    let value := parameter? session name manner.divided quoted
    if isUsable orEmpty value then pure (value.map (valueFragment session name quoted)).toList
    else
      let fragments ← expandParts substitute manner.innerText complaint
      Act.fail (name ++ ": " ++ demandText orEmpty complaint (Fragment.word fragments))
  | .cut front longest pattern => do
    let session ← get
    match ← checked name (parameter? session name manner.divided quoted) with
    | none => pure []
    | some text =>
      let fragments ← expandParts substitute .single pattern
      let kept := match Pattern.place? front longest (Fragment.pattern fragments) text with
        | some count => if front then text.drop count else text.take count
        | none => text
      pure [valueFragment (← get) name quoted kept]

end

/-- The words that a word stands for. -/
def expandFields (substitute : ShellCommand → Act Bytes) (word : Word) : Act (List String) := do
  let fragments ← expandParts substitute .words word
  let session ← get
  let fields := session.separators.fields none fragments
  if session.has "noglob" then pure (fields.map fun field => String.ofList field.text)
  else pure (fields.flatMap (Pattern.expand session.system.tree session.place))

/-- The text that a word stands for. -/
def expandText (substitute : ShellCommand → Act Bytes) (manner : Manner) (word : Word) :
    Act String :=
  Fragment.word <$> expandParts substitute manner word

/-- The pattern that a word stands for. -/
def expandPattern (substitute : ShellCommand → Act Bytes) (word : Word) : Act Pattern :=
  Fragment.pattern <$> expandParts substitute .single word

end Runbook.Shell
