import Runbook.Steps.Script

/-! # The step that installs requirements

* **`RequirementsStep.behaviour`** — installs the packages that a file lists, by the package installer
  of an interpreter. -/

namespace Runbook

/-- Which packages are installed, and how. -/
structure RequirementsStep where
  /-- The directory that the installer runs in, if not the working directory. -/
  directory : Option String
  /-- The file that lists the packages. -/
  file : String
  /-- Whether the lines that the installer writes are shown. -/
  shown : Bool
  deriving DecidableEq, Repr

namespace RequirementsStep

/-- The parameters of the step. -/
def schema : Schema :=
  [⟨"directory", .path, true, false⟩, ⟨"requirements_file", .text, false, false⟩,
    ⟨"stream_output", .flag, false, false⟩]

/-- What parameters ask for. -/
def ofFields (fields : Fields) : Except DecodeError RequirementsStep :=
  (schema.check fields).map fun _ =>
    { directory := Decoding.text? fields "directory"
      file := (Decoding.text? fields "requirements_file").getD "requirements.txt"
      shown := Decoding.flag fields "stream_output" true }

/-- The environment variable that names the interpreter. -/
def interpreterVariable : String := "RIGGER_PYTHON"

/-- The interpreter: the one that the environment names, unless that name is blank. -/
def interpreter (environment : Environment) : String :=
  match environment.value? interpreterVariable with
  | some name => if Text.isBlankText name then "python3" else name
  | none => "python3"

/-- The command that installs the packages. -/
def command (step : RequirementsStep) (environment : Environment) : Command :=
  ⟨interpreter environment, ["-m", "pip", "install", "-r", step.file], step.directory, []⟩

/-- Installs the packages. -/
def run {ω : Type} (step : RequirementsStep) (host : Host ω) (environment : Environment)
    (world : ω) : Except Failure Json × ω :=
  match host.capture (step.command environment) step.shown world with
  | (.error failure, world) => (.error failure, world)
  | (.ok captured, world) =>
    if captured.succeeded then (.ok (ScriptStep.output captured.stdout captured.stderr), world)
    else (.error (captured.failure "pip_install_requirements" captured.stderr), world)

/-- The step as an operation. -/
def behaviour {ω : Type} (host : Host ω) (environment : Environment) : Behaviour ω :=
  fun fields diagnostics world =>
    match ofFields fields with
    | .error error =>
      ⟨.error ⟨"invalid parameters for pip_install_requirements", [error.message]⟩, diagnostics,
        world⟩
    | .ok step =>
      let (outcome, world) := step.run host environment world
      ⟨outcome, diagnostics, world⟩

end RequirementsStep

end Runbook
