import Runbook.CommandLine.Expansion
import Runbook.CommandLine.Words
import Runbook.Environment
import Runbook.Process
import Runbook.Text.Blank

/-! # The step that runs a script

Each line of a script that is not blank is a command of its own, which runs without a shell. The
first that does not succeed ends the script.

* **`ScriptStep`** — the parameters of the step.
* **`ScriptStep.runLines`** — runs the lines of a script and gathers what they write.
* **`ScriptStep.behaviour`** — the step as an operation. -/

namespace Runbook

/-- What a script is and how it runs. -/
structure ScriptStep where
  /-- The text of the script. -/
  script : String
  /-- The directory that its commands run in, if not the working directory. -/
  directory : Option String
  /-- The environment variables that its commands get in addition. -/
  bindings : List (String × String)
  /-- Whether the lines that its commands write are shown. -/
  shown : Bool
  /-- Whether variables are replaced in its lines. -/
  expanded : Bool
  deriving DecidableEq, Repr

namespace ScriptStep

/-- The parameters of the step. -/
def schema : Schema :=
  [⟨"script", .text, false, true⟩, ⟨"directory", .path, true, false⟩,
    ⟨"env", .mapping, false, false⟩, ⟨"stream_output", .flag, false, false⟩,
    ⟨"expand_env_vars", .flag, false, false⟩]

/-- The script that parameters describe. -/
def ofFields (fields : Fields) : Except DecodeError ScriptStep :=
  (schema.check fields).map fun _ =>
    { script := (Decoding.text? fields "script").getD ""
      directory := Decoding.text? fields "directory"
      bindings := (Decoding.mapping fields "env").map fun (name, value) => (name, value.display)
      shown := Decoding.flag fields "stream_output" true
      expanded := Decoding.flag fields "expand_env_vars" false }

/-- The lines of a script that are not blank, without the blanks around them. -/
def scriptLines (script : String) : List String :=
  (((Text.lines script.toList).map Text.trim).filter fun line => !line.isEmpty).map String.ofList

/-- The value of a variable in a line: one of the script's own variables, or one of the
environment. -/
def value? (step : ScriptStep) (environment : Environment) (name : String) : Option String :=
  (step.bindings.lookup name).or (environment.value? name)

/-- A line with its variables replaced, if that is asked for. -/
def lineText (step : ScriptStep) (environment : Environment) (line : String) : String :=
  if step.expanded then CommandLine.expand (step.value? environment) line else line

/-- The command of a program and its arguments. -/
def command (step : ScriptStep) (program : String) (arguments : List String) : Command :=
  ⟨program, arguments, step.directory, step.bindings⟩

/-- A text as a list that the empty text does not lengthen. -/
def nonempty (text : String) : List String := if text.isEmpty then [] else [text]

/-- Runs the lines of a script, one after another, until one does not succeed. Gives what they wrote
to their standard outputs and to their standard errors. -/
def runLines {ω : Type} (step : ScriptStep) (host : Host ω) (environment : Environment) :
    List String → ω → Except Failure (List String × List String) × ω
  | [], world => (.ok ([], []), world)
  | line :: lines, world =>
    let line := step.lineText environment line
    match CommandLine.split line with
    | .error error =>
      (.error ⟨"could not parse script line '" ++ line ++ "'", [error.message]⟩, world)
    | .ok [] => runLines step host environment lines world
    | .ok (program :: arguments) =>
      match host.capture (step.command program arguments) step.shown world with
      | (.error failure, world) => (.error failure, world)
      | (.ok captured, world) =>
        if captured.succeeded then
          match runLines step host environment lines world with
          | (.error failure, world) => (.error failure, world)
          | (.ok (out, err), world) =>
            (.ok (nonempty captured.stdout ++ out, nonempty captured.stderr ++ err), world)
        else (.error (captured.failure "run_shell_script" captured.stderr), world)

/-- The output of a step that has run programs. -/
def output (stdout stderr : String) : Json :=
  .object [("stderr", .string (Text.trimmed stderr)), ("stdout", .string (Text.trimmed stdout))]

/-- Runs a script. -/
def run {ω : Type} (step : ScriptStep) (host : Host ω) (environment : Environment) (world : ω) :
    Except Failure Json × ω :=
  match step.runLines host environment (scriptLines step.script) world with
  | (.error failure, world) => (.error failure, world)
  | (.ok (out, err), world) =>
    (.ok (output (String.intercalate "\n" out) (String.intercalate "\n" err)), world)

/-- The step as an operation. -/
def behaviour {ω : Type} (host : Host ω) (environment : Environment) : Behaviour ω :=
  fun fields diagnostics world =>
    match ofFields fields with
    | .error error =>
      ⟨.error ⟨"invalid parameters for run_shell_script", [error.message]⟩, diagnostics, world⟩
    | .ok step =>
      let (outcome, world) := step.run host environment world
      ⟨outcome, diagnostics, world⟩

end ScriptStep

end Runbook
