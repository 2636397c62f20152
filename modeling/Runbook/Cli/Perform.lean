import Runbook.Cli.Report
import Runbook.Cli.Request
import Runbook.Cli.Seed
import Runbook.Console
import Runbook.Loading
import Runbook.Pipeline.Run
import Runbook.Review
import Runbook.Steps.Builtin
import Runbook.Store.Environment

/-! # The command line

* **`Outcome`** — the exit code of a command and what it writes to its standard output.
* **`perform`** — carries out a request on a host.
* **`respond`** — carries out what arguments ask for. -/

namespace Runbook.Cli

/-- What a command leaves. -/
structure Outcome where
  /-- The exit code. -/
  code : Nat
  /-- What was written to the standard output. -/
  stdout : String
  deriving DecidableEq, Repr

variable {ω : Type}

/-- Writes lines to the standard error of the whole run. -/
def noteAll (host : Host ω) (lines : List String) (world : ω) : ω :=
  lines.foldl (fun world line => host.note line world) world

/-- Ends a command that has written something so far. -/
def finish (host : Host ω) (stdout : String) (failure : Option Failure) (world : ω) : Outcome × ω :=
  match failure with
  | none => (⟨0, stdout⟩, world)
  | some failure => (⟨1, stdout⟩, noteAll host failure.report world)

/-- Lines, each with its end. -/
def joinLines (lines : List String) : String := String.join (lines.map (· ++ "\n"))

/-- The name of the section that is asked for, or of the one that runs when none is. -/
def sectionName (document : PipelineDocument) : (chosen : Option String) → Except Failure String
  | some name => .ok name
  | none =>
    match document.defaultSection? with
    | some name => .ok name
    | none =>
      .error (.ofMessage "the document has several sections; choose one with --section")

/-- The name and the entries of a section of the document in a file. -/
def openSection (host : Host ω) (file : String) (chosen : Option String) (world : ω) :
    Except Failure (String × List Json) := do
  let document ← PipelineDocument.load file (host.readText file world)
  let name ← sectionName document chosen
  match document.section? name with
  | .ok entries => .ok (name, entries)
  | .error error => .error (.ofMessage error.message)

/-- The store that a run reads: a saved one, or else the one of the environment. -/
def openStore (host : Host ω) (environment : Environment) (saved : Option String) (world : ω) :
    Except Failure Store :=
  match saved with
  | none => .ok (EnvironmentStore.ofEnvironment environment).toStore
  | some path =>
    match TableStore.load path (host.readText path world) with
    | .ok store => .ok store.toStore
    | .error error => .error (.ofMessage error.message)

/-- The outputs that a run starts with, if assignments give any. -/
def openOutputs : (assignments : List String) → Except Failure (Option Outputs)
  | [] => .ok none
  | assignments =>
    (Seed.ofAssignments [] assignments).map fun fields => some (Outputs.seeded fields)

/-- The pipeline, the entries and the outputs with which a run starts. -/
def openRun [DomainNames] (host : Host ω) (environment : Environment) (request : RunRequest) (world : ω) :
    Except Failure (Pipeline ω × List Json × Option Outputs) := do
  let (_, entries) ← openSection host request.file request.chosen world
  let store ← openStore host environment request.store world
  let earlier ← openOutputs request.assignments
  .ok (⟨Registry.builtin host environment, environment, store⟩, entries, earlier)

/-- Runs a section and prints its outputs. -/
def run [DomainNames] (host : Host ω) (environment : Environment) (request : RunRequest) (world : ω) :
    Outcome × ω :=
  match openRun host environment request world with
  | .error failure => finish host "" (some failure) world
  | .ok (pipeline, entries, earlier) =>
    let sink := if request.json then Console.silent
      else Console.sink (Console.isColoured environment)
    let run := pipeline.runSteps sink entries earlier world ""
    match run.result with
    | .ok outputs =>
      finish host (run.sink ++ (Json.object outputs.handOver).pretty ++ "\n") none run.world
    | .error error => finish host run.sink (some error.toFailure) run.world

/-- The failure of a section with problems, if it has any. -/
def reviewFailure (name : String) : (problems : Nat) → Option Failure
  | 0 => none
  | problems =>
    some (.ofMessage ("section '" ++ name ++ "' has " ++ toString problems ++ " problem(s)"))

/-- Reviews a section and prints the findings. -/
def check [DomainNames] (host : Host ω) (environment : Environment) (file : String) (chosen : Option String)
    (world : ω) : Outcome × ω :=
  match openSection host file chosen world with
  | .error failure => finish host "" (some failure) world
  | .ok (name, entries) =>
    let found := Review.findings (Registry.builtin host environment) entries
    finish host (joinLines (found.map Finding.line)) (reviewFailure name (Review.problems found)) world

/-- The lines that show the names in a registry. -/
def listing (registry : Registry ω) : List String :=
  "Steps:" :: registry.operations.entries.map (fun (name, operation) =>
      "  " ++ name ++ " (" ++ operation.kind ++ ")")
    ++ "Deprecated aliases:" :: registry.aliases.entries.map fun (oldName, target) =>
      "  " ++ oldName ++ " -> " ++ target

/-- Ends a command that changes the store. -/
def finishChange (host : Host ω) (done : String) (result : Except StoreError Unit) (world : ω) :
    Outcome × ω :=
  match result with
  | .ok () => finish host (done ++ "\n") none world
  | .error error => finish host "" (some (.ofMessage error.message)) world

/-- Stores a variable. -/
def setVariable (host : Host ω) (environment : Environment) (name : String) (world : ω) :
    Outcome × ω :=
  finishChange host ("Stored variable '" ++ name ++ "'")
    ((EnvironmentStore.ofEnvironment environment).storeVariable name) world

/-- Stores a block whose document is data. -/
def setBlock (host : Host ω) (environment : Environment) (type name document : String) (world : ω) :
    Outcome × ω :=
  match Json.parse? document with
  | none =>
    finish host "" (some (.ofMessage
      ("block document for '" ++ type ++ "/" ++ name ++ "' is not valid JSON"))) world
  | some _ =>
    finishChange host ("Stored block '" ++ type ++ "/" ++ name ++ "'")
      ((EnvironmentStore.ofEnvironment environment).storeBlock type name) world

/-- Carries out a request. -/
def perform [DomainNames] (host : Host ω) (environment : Environment) (request : Request) (world : ω) :
    Outcome × ω :=
  match request with
  | .run request => run host environment request world
  | .check file chosen => check host environment file chosen world
  | .steps =>
    finish host (joinLines (listing (Registry.builtin host environment))) none world
  | .setVariable name _ => setVariable host environment name world
  | .setBlock type name document => setBlock host environment type name document world

/-- What the command line can be asked to do, in lines. -/
def help : List String :=
  ["Run deployment preparation steps",
    "",
    "Usage: rigger <COMMAND>",
    "",
    "Commands:",
    "  run    Run one section of a pipeline document",
    "  check  Validate a section and list its placeholders without running anything",
    "  steps  List registered steps and deprecated aliases",
    "  store  Write blocks and variables to the keychain-backed store",
    "  help   Print this message or the help of the given subcommand(s)",
    "",
    "Options:",
    "  -h, --help     Print help",
    "  -V, --version  Print version"]

/-- The version, in words. -/
def versionLine : String := "rigger 0.1.0"

/-- Answers arguments that ask for no command. -/
def answer (host : Host ω) (refusal : Refusal) (world : ω) : Outcome × ω :=
  match refusal with
  | .help => (⟨0, joinLines help⟩, world)
  | .version => (⟨0, versionLine ++ "\n"⟩, world)
  | .misuse error => (⟨2, ""⟩, noteAll host ["error: " ++ error.message] world)

/-- Carries out what arguments ask for. -/
def respond [DomainNames] (host : Host ω) (environment : Environment) (arguments : List String) (world : ω) :
    Outcome × ω :=
  match Request.ofArguments arguments with
  | .ok request => perform host environment request world
  | .error refusal => answer host refusal world

end Runbook.Cli
