import Runbook.Pipeline.Invoke
import Runbook.Pipeline.Sink
import Runbook.Redaction

/-! # Pipelines

A pipeline runs entries one after another. Each sees the outputs of those before it; the first that
fails stops the run, and one entry that describes no step keeps the whole run from starting.

* **`Pipeline`** — what a run needs: a registry, an environment and a store.
* **`Pipeline.runStep`** — runs one entry by itself.
* **`Pipeline.runSteps`** — runs a list of entries, printing progress and diagnostics. -/

namespace Runbook

/-- What a run needs. -/
structure Pipeline (ω : Type) where
  /-- The operations. -/
  registry : Registry ω
  /-- The environment that placeholders see. It is asked anew for each step; what it answers is taken
  not to change in the course of a run. -/
  environment : Environment
  /-- The store that placeholders see. -/
  store : Store

/-- What a single step has left. -/
structure StepRun (ω : Type) where
  /-- The output of the step, or why there is none. -/
  result : Except StepError Json
  /-- The world afterwards. -/
  world : ω
  /-- What happened. -/
  events : List Event

/-- What a run of several steps has left. -/
structure PipelineRun (ω κ : Type) where
  /-- The outputs, or why the run stopped. -/
  result : Except PipelineError Outputs
  /-- The world afterwards. -/
  world : ω
  /-- What the sink remembers. -/
  sink : κ
  /-- What happened. -/
  events : List Event

namespace Pipeline

variable {ω κ : Type}

/-- Where the references of a step are looked up. -/
def sources (pipeline : Pipeline ω) (outputs : Outputs) : Sources :=
  ⟨outputs, pipeline.environment, pipeline.store⟩

/-- Resolves the parameters of a step and runs its operation. -/
def execute (pipeline : Pipeline ω) (step : Step) (outputs : Outputs) (world : ω) : Attempt ω :=
  match Resolution.parameters (pipeline.sources outputs) step.parameters with
  | .error e => ⟨.error (.resolution e), world, []⟩
  | .ok parameters =>
    let text := redact (Json.object parameters).compact
    let attempt := pipeline.registry.invoke step.name step.requires parameters world
    { attempt with events := .log (.parametersResolved step.name step.id text) :: attempt.events }

/-- Runs the step of one entry. Its diagnostics go to the log. -/
def runStep (pipeline : Pipeline ω) (entry : Json) (outputs : Option Outputs) (world : ω) :
    StepRun ω :=
  match Step.ofEntry entry with
  | .error e => ⟨.error (.format e), world, []⟩
  | .ok step =>
    let attempt := pipeline.execute step (outputs.getD .empty) world
    match attempt.result with
    | .error e => ⟨.error e, attempt.world, attempt.events⟩
    | .ok invocation =>
      ⟨.ok invocation.output, attempt.world,
        attempt.events ++ invocation.diagnostics.map fun diagnostic =>
          .log (.raised step.name diagnostic)⟩

/-- The steps of entries, the first of which stands at position `index`. -/
def stepsOf (index : Nat) : List Json → Except PipelineError (List Step)
  | [] => .ok []
  | entry :: rest =>
    match Step.ofEntry entry with
    | .error e => .error (.format index e)
    | .ok step => (stepsOf (index + 1) rest).map (step :: ·)

/-- The line that is printed before a step runs. -/
def progressLine (step : Step) : String := " > Running " ++ step.shortName ++ " step..."

/-- Runs steps, the first of which stands at position `index`. -/
def runFrom (pipeline : Pipeline ω) (sink : Sink κ) (index : Nat) (outputs : Outputs) :
    List Step → ω → κ → PipelineRun ω κ
  | [], world, state => ⟨.ok outputs, world, state, []⟩
  | step :: rest, world, state =>
    let (progress, state) := sink.deliver (progressLine step) none state
    let attempt := pipeline.execute step outputs world
    match attempt.result with
    | .error e =>
      ⟨.error (.step step.name index e), attempt.world, state,
        progress ++ attempt.events ++ [.log (.stepFailed step.name index e)]⟩
    | .ok invocation =>
      let (printed, state) := sink.deliverAll invocation.diagnostics state
      let run := runFrom pipeline sink (index + 1) (outputs.record step.id invocation.output)
        rest attempt.world state
      { run with events := progress ++ attempt.events ++ printed ++ run.events }

/-- Runs the steps of entries. Nothing at all happens unless every entry describes a step. -/
def runSteps (pipeline : Pipeline ω) (sink : Sink κ) (entries : List Json)
    (earlier : Option Outputs) (world : ω) (state : κ) : PipelineRun ω κ :=
  match stepsOf 0 entries with
  | .error e => ⟨.error e, world, state, []⟩
  | .ok steps => pipeline.runFrom sink 0 (earlier.getD .empty) steps world state

end Pipeline

end Runbook
