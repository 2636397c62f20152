import Runbook.Host
import Runbook.Operation

/-! # Running programs

* **`Captured`** — what a program has written, as text, and how it ended.
* **`Host.capture`** — runs a program and captures what it writes; its lines may be shown while it
  runs. -/

namespace Runbook

/-- What a program has written and how it ended. -/
structure Captured where
  /-- The lines of its standard output. -/
  stdout : String
  /-- The lines of its standard error. -/
  stderr : String
  /-- Its exit code; none if a signal ended it. -/
  code : Option Nat
  deriving DecidableEq, Repr

namespace Captured

/-- Whether the program succeeded. -/
def succeeded (captured : Captured) : Bool := captured.code == some 0

/-- The exit code in words. -/
def codeText (captured : Captured) : String :=
  match captured.code with
  | some code => toString code
  | none => "signal"

/-- The failure of an operation whose program did not succeed. -/
def failure (captured : Captured) (operation : String) (notes : String) : Failure :=
  .ofMessage (operation ++ " failed with error code " ++ captured.codeText ++ ": " ++ notes)

end Captured

/-- The lines of bytes; each keeps its line feed. -/
def Bytes.lines : Bytes → List Bytes
  | [] => []
  | byte :: bytes =>
    if byte = 10 then [byte] :: Bytes.lines bytes
    else
      match Bytes.lines bytes with
      | [] => [[byte]]
      | line :: lines => (byte :: line) :: lines

/-- A line without its line feed and the carriage return before that. -/
def dropLineEnd (line : List Char) : List Char :=
  match line.reverse with
  | '\n' :: '\r' :: rest | '\n' :: rest => rest.reverse
  | _ => line

/-- The texts of lines up to the first that is no text, and what is wrong with that one. -/
def readLines : List Bytes → List String × Option Utf8Error
  | [] => ([], none)
  | line :: lines =>
    match Utf8.decode line with
    | .error error => ([], some error)
    | .ok text =>
      let (texts, error) := readLines lines
      (String.ofList (dropLineEnd text.toList) :: texts, error)

/-- Whether a text holds the character that no argument of a program can hold. -/
def holdsNul (text : String) : Bool := text.toList.contains '\x00'

/-- Whether some text of a command cannot be handed over. -/
def Command.holdsNul (command : Command) : Bool :=
  Runbook.holdsNul command.program || command.arguments.any Runbook.holdsNul
    || command.directory.any Runbook.holdsNul
    || command.bindings.any fun (name, value) => Runbook.holdsNul name || Runbook.holdsNul value

namespace Host

variable {ω : Type}

/-- Starts a program, unless its command cannot be handed over. -/
def launch (host : Host ω) (command : Command) (world : ω) : Except HostError Finished × ω :=
  if command.holdsNul then (.error (.other "nul byte found in provided data"), world)
  else host.run command world

/-- Writes lines to the standard error of the whole run. -/
def noteAll (host : Host ω) (lines : List String) (world : ω) : ω :=
  lines.foldl (fun world line => host.note line world) world

/-- Runs a program and captures what it writes. With `shown`, its lines are shown. -/
def capture (host : Host ω) (command : Command) (shown : Bool) (world : ω) :
    Except Failure Captured × ω :=
  match host.launch command world with
  | (.error error, world) =>
    (.error ⟨"failed to start '" ++ command.program ++ "'", [error.message]⟩, world)
  | (.ok finished, world) =>
    let (out, outError) := readLines finished.stdout.lines
    let (err, errError) := readLines finished.stderr.lines
    let world := if shown then host.noteAll (out ++ err) world else world
    match outError.or errError with
    | some error =>
      (.error ⟨"failed to read output of '" ++ command.program ++ "'", [error.message]⟩, world)
    | none =>
      (.ok ⟨String.intercalate "\n" out, String.intercalate "\n" err, finished.code⟩, world)

end Host

end Runbook
