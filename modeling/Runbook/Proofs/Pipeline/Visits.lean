import Runbook.Pipeline.Run
import Runbook.Proofs.Pipeline.Delivery
import Runbook.Proofs.Pipeline.Diagnostics

/-! # The steps that a run reaches

What a run does is told here without its events and without a sink: a list of **visits**, one for
each step that is reached, each of which says how far the step got.

* **`Visit`** — what becomes of a step that is reached.
* **`Visit.messages`**, **`Visit.calls`** — what a visit prints, and the operation that it calls.
* **`Pipeline.visits`** — the visits of a run, which end with the first step that fails.
* **`Pipeline.execute_eq_visit`** — an execution comes to what its visit says.
* **`Pipeline.runFrom_of_error`**, **`Pipeline.runFrom_of_ok`** — a run from step to step. -/

namespace Runbook

/-- What becomes of a step that is reached. -/
inductive Visit (ω : Type) where
  /-- Its parameters have no value. -/
  | unresolved (step : Step) (cause : ResolutionError)
  /-- Its name means no operation. -/
  | unknown (step : Step)
  /-- The operation that its name means runs on its resolved parameters, in a world. -/
  | ran (step : Step) (resolved : Resolved ω) (parameters : Fields) (world : ω)

namespace Visit

variable {ω : Type}

/-- The step that is visited. -/
def step : Visit ω → Step
  | .unresolved step _ | .unknown step | .ran step _ _ _ => step

/-- The calls of operations: one if the step gets that far. -/
def calls : Visit ω → List (String × Fields)
  | .unresolved _ _ | .unknown _ => []
  | .ran _ resolved parameters _ => [(resolved.name, parameters)]

/-- What the visit comes to. -/
def result : Visit ω → Except StepError Invocation
  | .unresolved _ cause => .error (.resolution cause)
  | .unknown step => .error (.unknownStep step.name step.requires)
  | .ran _ resolved parameters world =>
    let report := resolved.operation.run parameters resolved.notices world
    match report.outcome with
    | .ok output => .ok ⟨output, report.diagnostics⟩
    | .error failure => .error (.operation failure)

/-- What a step that succeeds leaves to those behind it: its output, and the world. -/
def left : Visit ω → Option (Json × ω)
  | .unresolved _ _ | .unknown _ => none
  | .ran _ resolved parameters world =>
    match resolved.operation.run parameters resolved.notices world with
    | ⟨.ok output, _, after⟩ => some (output, after)
    | ⟨.error _, _, _⟩ => none

/-- The messages of a visit: the progress line, and the diagnostics of a step that succeeds. -/
def messages (visit : Visit ω) : List (String × Option String) :=
  (" > Running " ++ visit.step.shortName ++ " step...", none) ::
    match visit.result with
    | .ok invocation => invocation.diagnostics.map Sink.message
    | .error _ => []

/-- Whether the step succeeds. -/
def Succeeds (visit : Visit ω) : Prop := ∃ invocation, visit.result = .ok invocation

/-- **The kind of the outcome tells how often an operation is called**: once, unless the parameters
have no value or the name means nothing. -/
theorem length_calls (visit : Visit ω) :
    visit.calls.length =
      match visit.result with
      | .ok _ | .error (.operation _) => 1
      | .error _ => 0 := by
  cases visit with
  | unresolved step cause => rfl
  | unknown step => rfl
  | ran step resolved parameters world =>
    rw [result]
    cases (resolved.operation.run parameters resolved.notices world).outcome <;> rfl

/-- A step that succeeds leaves the diagnostics as its operation leaves them. -/
theorem diagnostics_of_ran {step : Step} {resolved : Resolved ω} {parameters : Fields} {world : ω}
    {invocation : Invocation}
    (h : (ran step resolved parameters world).result = .ok invocation) :
    invocation.diagnostics =
      (resolved.operation.run parameters resolved.notices world).diagnostics := by
  rw [result] at h
  cases houtcome : (resolved.operation.run parameters resolved.notices world).outcome with
  | error failure => simp [houtcome] at h
  | ok output =>
    simp only [houtcome, Except.ok.injEq] at h
    rw [← h]

end Visit

namespace Pipeline

variable {ω κ : Type} (pipeline : Pipeline ω)

/-- The visit of a step. -/
def visit (step : Step) (outputs : Outputs) (world : ω) : Visit ω :=
  match Resolution.parameters (pipeline.sources outputs) step.parameters with
  | .error cause => .unresolved step cause
  | .ok parameters =>
    match pipeline.registry.resolve? step.name with
    | none => .unknown step
    | some resolved => .ran step resolved parameters world

/-- **The visits of a run.** A step that succeeds leaves its output to those behind it; behind a
step that fails nothing is visited any more. -/
def visits (outputs : Outputs) : List Step → ω → List (Visit ω)
  | [], _ => []
  | step :: rest, world =>
    let visit := pipeline.visit step outputs world
    visit :: match visit.left with
      | some (output, after) => visits (outputs.record step.id output) rest after
      | none => []

@[simp] theorem step_visit (step : Step) (outputs : Outputs) (world : ω) :
    (pipeline.visit step outputs world).step = step := by
  rw [visit]
  split
  · rfl
  · split <;> rfl

/-- A visit that gets as far as an operation is one of the operation that the name means. -/
theorem resolve?_of_visit_eq_ran {step visited : Step} {outputs : Outputs} {world before : ω}
    {resolved : Resolved ω} {parameters : Fields}
    (h : pipeline.visit step outputs world = .ran visited resolved parameters before) :
    pipeline.registry.resolve? visited.name = some resolved := by
  rw [visit] at h
  split at h
  · cases h
  · split at h
    · cases h
    · cases h
      assumption

/-- **An execution comes to what its visit says**: it has the same result and calls the same
operation, and by itself it prints nothing. -/
theorem execute_eq_visit (step : Step) (outputs : Outputs) (world : ω) :
    (pipeline.execute step outputs world).result = (pipeline.visit step outputs world).result ∧
      Event.calls (pipeline.execute step outputs world).events =
        (pipeline.visit step outputs world).calls ∧
      Event.prints (pipeline.execute step outputs world).events = [] := by
  rw [execute, visit]
  cases Resolution.parameters (pipeline.sources outputs) step.parameters with
  | error cause => exact ⟨rfl, rfl, rfl⟩
  | ok parameters =>
    simp only [Registry.invoke]
    cases pipeline.registry.resolve? step.name with
    | none => exact ⟨rfl, rfl, rfl⟩
    | some resolved =>
      simp only [Visit.result, Visit.calls]
      cases (resolved.operation.run parameters resolved.notices world).outcome <;> simp

/-- The messages of a visit are the progress line of its step and the diagnostics that the execution
hands on. -/
theorem messages_visit (step : Step) (outputs : Outputs) (world : ω) :
    (pipeline.visit step outputs world).messages =
      (progressLine step, none) ::
        match (pipeline.execute step outputs world).result with
        | .ok invocation => invocation.diagnostics.map Sink.message
        | .error _ => [] := by
  obtain ⟨hvisit, -, -⟩ := pipeline.execute_eq_visit step outputs world
  rw [Visit.messages, ← hvisit, step_visit, progressLine]

/-- A step leaves something to those behind it exactly if it succeeds. -/
theorem left_visit (step : Step) (outputs : Outputs) (world : ω) :
    (pipeline.visit step outputs world).left =
      match (pipeline.execute step outputs world).result with
      | .ok invocation => some (invocation.output, (pipeline.execute step outputs world).world)
      | .error _ => none := by
  rw [execute, visit]
  cases Resolution.parameters (pipeline.sources outputs) step.parameters with
  | error cause => rfl
  | ok parameters =>
    simp only [Registry.invoke]
    cases pipeline.registry.resolve? step.name with
    | none => rfl
    | some resolved =>
      simp only [Visit.left]
      rcases resolved.operation.run parameters resolved.notices world with ⟨_ | _, _, _⟩ <;> rfl

/-! ## From step to step -/

section

variable (sink : Sink κ) (index : Nat) (outputs : Outputs) {step : Step} (rest : List Step)
  (world : ω) (state : κ)

/-- **A run ends with a step that fails**, behind its progress line. -/
theorem runFrom_of_error {e : StepError}
    (h : (pipeline.execute step outputs world).result = .error e) :
    pipeline.runFrom sink index outputs (step :: rest) world state =
      let progress := sink.deliver (progressLine step) none state
      ⟨.error (.step step.name index e), (pipeline.execute step outputs world).world, progress.2,
        progress.1 ++ (pipeline.execute step outputs world).events ++
          [.log (.stepFailed step.name index e)]⟩ := by
  rw [runFrom]
  simp only [h]

/-- **A run goes on behind a step that succeeds**, on the recorded output and in the world that the
step leaves, once its diagnostics are printed. -/
theorem runFrom_of_ok {invocation : Invocation}
    (h : (pipeline.execute step outputs world).result = .ok invocation) :
    pipeline.runFrom sink index outputs (step :: rest) world state =
      let progress := sink.deliver (progressLine step) none state
      let printed := sink.deliverAll invocation.diagnostics progress.2
      let run := pipeline.runFrom sink (index + 1) (outputs.record step.id invocation.output) rest
        (pipeline.execute step outputs world).world printed.2
      { run with
        events := progress.1 ++ (pipeline.execute step outputs world).events ++ printed.1 ++
          run.events } := by
  rw [runFrom]
  simp only [h]

/-- The visits of a run end with a step that fails. -/
theorem visits_of_error {e : StepError}
    (h : (pipeline.execute step outputs world).result = .error e) :
    pipeline.visits outputs (step :: rest) world = [pipeline.visit step outputs world] := by
  rw [visits]
  simp only [left_visit, h]

/-- The visits of a run go on behind a step that succeeds. -/
theorem visits_of_ok {invocation : Invocation}
    (h : (pipeline.execute step outputs world).result = .ok invocation) :
    pipeline.visits outputs (step :: rest) world =
      pipeline.visit step outputs world ::
        pipeline.visits (outputs.record step.id invocation.output) rest
          (pipeline.execute step outputs world).world := by
  rw [visits]
  simp only [left_visit, h]

end

/-- **Pipelines that execute every step of a list alike run alike**, from any position on. -/
theorem runFrom_congr {first second : Pipeline ω} {steps : List Step}
    (h : ∀ step ∈ steps, ∀ outputs world,
      first.execute step outputs world = second.execute step outputs world)
    (sink : Sink κ) (index : Nat) (outputs : Outputs) (world : ω) (state : κ) :
    first.runFrom sink index outputs steps world state =
      second.runFrom sink index outputs steps world state := by
  induction steps generalizing index outputs world state with
  | nil => rfl
  | cons step rest ih =>
    obtain ⟨hstep, hrest⟩ := List.forall_mem_cons.mp h
    rw [runFrom, runFrom, hstep]
    dsimp only
    split
    · rfl
    · rw [ih hrest]

/-- Every visit of a run is the visit of a step. -/
theorem exists_visit_of_mem_visits {outputs : Outputs} {steps : List Step} {world : ω}
    {visited : Visit ω} (h : visited ∈ pipeline.visits outputs steps world) :
    ∃ step before after, visited = pipeline.visit step before after := by
  induction steps generalizing outputs world with
  | nil => exact absurd h List.not_mem_nil
  | cons step rest ih =>
    cases hresult : (pipeline.execute step outputs world).result with
    | error e =>
      rw [pipeline.visits_of_error outputs rest world hresult] at h
      exact ⟨step, outputs, world, List.mem_singleton.mp h⟩
    | ok invocation =>
      rw [pipeline.visits_of_ok outputs rest world hresult] at h
      rcases List.mem_cons.mp h with rfl | h
      · exact ⟨step, outputs, world, rfl⟩
      · exact ih h

end Pipeline

end Runbook
