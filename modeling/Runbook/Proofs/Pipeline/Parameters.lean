import Runbook.Proofs.Outcome
import Runbook.Proofs.Outputs.History
import Runbook.Proofs.Pipeline.Trace

/-! # Parameters in a run

What the result of a run says about the parameters of its steps.

* **`Pipeline.execute_error_cases`** — the ways in which a step fails.
* **`Pipeline.runFrom_recordAll`** — a run gets through all steps or to one that fails, on the outputs
  that the steps before have left under their identifiers.
* **`Pipeline.mem_of_result_eq_resolution`** — a run that fails for a placeholder has a step whose
  parameters do.
* **`Pipeline.parameters_of_result_eq_ok`** — in a run that succeeds the parameters of every step have
  a value. -/

namespace Runbook.Pipeline

variable {ω κ : Type} {pipeline : Pipeline ω} {sink : Sink κ} {index : Nat} {outputs : Outputs}
  {steps : List Step} {world : ω} {state : κ}

/-- **A step fails in one of three ways**: its parameters have no value, its name means nothing, or its
operation fails on its parameters. -/
theorem execute_error_cases {step : Step} {e : StepError}
    (h : (pipeline.execute step outputs world).result = .error e) :
    (∃ cause, e = .resolution cause ∧
        Resolution.parameters (pipeline.sources outputs) step.parameters = .error cause) ∨
      (e = .unknownStep step.name step.requires ∧ pipeline.registry.resolve? step.name = none) ∨
      ∃ parameters resolved failure, e = .operation failure ∧
        Resolution.parameters (pipeline.sources outputs) step.parameters = .ok parameters ∧
        pipeline.registry.resolve? step.name = some resolved ∧
        (resolved.operation.run parameters resolved.notices world).outcome = .error failure := by
  rw [(pipeline.execute_eq_visit step outputs world).1, visit] at h
  cases hparameters : Resolution.parameters (pipeline.sources outputs) step.parameters with
  | error cause =>
    rw [hparameters] at h
    cases h
    exact .inl ⟨cause, rfl, rfl⟩
  | ok parameters =>
    rw [hparameters] at h
    cases hresolve : pipeline.registry.resolve? step.name with
    | none =>
      rw [hresolve] at h
      cases h
      exact .inr (.inl ⟨rfl, rfl⟩)
    | some resolved =>
      simp only [hresolve, Visit.result] at h
      cases houtcome : (resolved.operation.run parameters resolved.notices world).outcome with
      | error failure =>
        rw [houtcome] at h
        cases h
        exact .inr (.inr ⟨parameters, resolved, failure, rfl, rfl, rfl, houtcome⟩)
      | ok output =>
        rw [houtcome] at h
        cases h

/-- A step fails for a placeholder exactly if its parameters do. -/
theorem result_execute_eq_resolution_iff {step : Step} {cause : ResolutionError} :
    (pipeline.execute step outputs world).result = .error (.resolution cause) ↔
      Resolution.parameters (pipeline.sources outputs) step.parameters = .error cause := by
  constructor
  · intro h
    rcases execute_error_cases h with ⟨_, hcause, hfails⟩ | ⟨hunknown, -⟩ | ⟨_, _, _, hoperation, -⟩
    · cases hcause
      exact hfails
    · cases hunknown
    · cases hoperation
  · intro h
    rw [execute, h]

/-- **A run gets through all steps or to one that fails**, and what is there by then are the outputs
that the steps before have left, each under the identifier of its step. -/
theorem runFrom_recordAll (pipeline : Pipeline ω) (sink : Sink κ) (index : Nat) (outputs : Outputs)
    (steps : List Step) (world : ω) (state : κ) :
    ∃ left : List Json,
      let reached := outputs.recordAll ((steps.map Step.id).zip left)
      let run := pipeline.runFrom sink index outputs steps world state
      (left.length = steps.length ∧ run.result = .ok reached) ∨
        ∃ step before e, steps[left.length]? = some step ∧
          (pipeline.execute step reached before).result = .error e ∧
          run.result = .error (.step step.name (index + left.length) e) := by
  -- on the steps, from any outputs, since each step that succeeds adds its own to them
  induction steps generalizing index outputs world state with
  | nil => exact ⟨[], .inl ⟨rfl, rfl⟩⟩
  | cons step rest ih =>
    cases hresult : (pipeline.execute step outputs world).result with
    | error e =>
      refine ⟨[], .inr ⟨step, world, e, rfl, hresult, ?_⟩⟩
      rw [pipeline.runFrom_of_error sink index outputs rest world state hresult]
      rfl
    | ok invocation =>
      obtain ⟨left, hleft⟩ := ih (index + 1) (outputs.record step.id invocation.output)
        (pipeline.execute step outputs world).world
        (sink.deliverAll invocation.diagnostics (sink.deliver (progressLine step) none state).2).2
      rw [pipeline.runFrom_of_ok sink index outputs rest world state hresult]
      refine ⟨invocation.output :: left, ?_⟩
      rcases hleft with ⟨hlength, hok⟩ | ⟨failed, before, e, hget, hfails, herror⟩
      · exact .inl ⟨congrArg (· + 1) hlength, hok⟩
      · refine .inr ⟨failed, before, e, hget, hfails, ?_⟩
        rw [List.length_cons, Nat.add_comm left.length, ← Nat.add_assoc]
        exact herror

/-- **A run that fails for a placeholder fails in the parameters of one of its steps.** -/
theorem mem_of_result_eq_resolution {name : String} {position : Nat} {cause : ResolutionError}
    (h : (pipeline.runFrom sink index outputs steps world state).result =
      .error (.step name position (.resolution cause))) :
    ∃ step ∈ steps, ∃ sources, Resolution.parameters sources step.parameters = .error cause := by
  obtain ⟨left, ⟨-, hok⟩ | ⟨step, before, e, hget, hfails, herror⟩⟩ :=
    pipeline.runFrom_recordAll sink index outputs steps world state
  · rw [h] at hok
    cases hok
  · rw [h] at herror
    cases herror
    exact ⟨step, List.mem_of_getElem? hget, _, result_execute_eq_resolution_iff.mp hfails⟩

/-- **In a run that succeeds the parameters of every step have a value.** -/
theorem parameters_of_result_eq_ok {final : Outputs}
    (h : (pipeline.runFrom sink index outputs steps world state).result = .ok final) :
    ∀ step ∈ steps, ∃ sources fields, Resolution.parameters sources step.parameters = .ok fields := by
  rcases pipeline.runFrom_conclusion sink index outputs steps world state with
    ⟨hsteps, hsucceed, -⟩ | ⟨before, failed, unvisited, e, -, -, -, -, herror⟩
  · rw [← hsteps]
    intro step hstep
    obtain ⟨visit, hmem, rfl⟩ := List.mem_map.mp hstep
    obtain ⟨invocation, hinvocation⟩ := hsucceed visit hmem
    obtain ⟨step, earlier, previous, rfl⟩ := pipeline.exists_visit_of_mem_visits hmem
    rw [step_visit]
    refine ⟨pipeline.sources earlier, errorOf?_eq_none_iff.mp ?_⟩
    rw [Option.eq_none_iff_forall_ne_some]
    intro cause hcause
    have hfails : (pipeline.execute step earlier previous).result = .error (.resolution cause) :=
      result_execute_eq_resolution_iff.mpr (errorOf?_eq_some_iff.mp hcause)
    rw [(pipeline.execute_eq_visit step earlier previous).1, hinvocation] at hfails
    cases hfails
  · rw [h] at herror
    cases herror

end Runbook.Pipeline
