import Runbook.Proofs.Pipeline.Recording
import Runbook.Proofs.Pipeline.Validation

/-! # The effects of a run

What a run prints, calls and comes to is told by the steps that it reaches. The notice that the name
of a step is old is among the diagnostics of this step only if its operation lets it be: one that
runs in place is handed the notice and may drop it.

* **`Pipeline.runFrom_prints`**, **`Pipeline.runFrom_calls`** — what a run prints and which operations
  it calls, in terms of the steps that it reaches.
* **`Pipeline.Conclusion`**, **`Pipeline.runFrom_conclusion`** — how far a run gets: through all steps,
  or to the first that fails.
* **`Pipeline.runSteps_trace`** — the exact effects of a run of accepted entries.
* **`Pipeline.notice_not_printed`** — an old name need not show. -/

namespace Runbook.Pipeline

variable {ω κ : Type} (pipeline : Pipeline ω)

/-- **A run makes the attempts for the messages of its visits**, in order and no others. -/
theorem runFrom_prints (sink : Sink κ) (index : Nat) (outputs : Outputs) (steps : List Step)
    (world : ω) (state : κ) :
    (Event.prints (pipeline.runFrom sink index outputs steps world state).events,
        (pipeline.runFrom sink index outputs steps world state).sink) =
      sink.attempts ((pipeline.visits outputs steps world).flatMap Visit.messages) state := by
  induction steps generalizing index outputs world state with
  | nil => rfl
  | cons step rest ih =>
    obtain ⟨-, -, hprints⟩ := pipeline.execute_eq_visit step outputs world
    have hmessages := pipeline.messages_visit step outputs world
    have hprogress := sink.deliver_attempt (progressLine step) none state
    cases hresult : (pipeline.execute step outputs world).result with
    | error e =>
      rw [hresult] at hmessages
      rw [pipeline.runFrom_of_error sink index outputs rest world state hresult,
        pipeline.visits_of_error outputs rest world hresult, List.flatMap_singleton, hmessages,
        Sink.attempts, ← hprogress]
      simp [hprints, Sink.attempts]
    | ok invocation =>
      rw [hresult] at hmessages
      rw [pipeline.runFrom_of_ok sink index outputs rest world state hresult,
        pipeline.visits_of_ok outputs rest world hresult, List.flatMap_cons, hmessages,
        List.cons_append, Sink.attempts, ← hprogress, Sink.attempts_append,
        ← sink.deliverAll_attempts, ← ih (index + 1)]
      simp [hprints]

/-- **A run calls the operations of its visits**, in order and no others. -/
theorem runFrom_calls (sink : Sink κ) (index : Nat) (outputs : Outputs) (steps : List Step)
    (world : ω) (state : κ) :
    Event.calls (pipeline.runFrom sink index outputs steps world state).events =
      (pipeline.visits outputs steps world).flatMap Visit.calls := by
  induction steps generalizing index outputs world state with
  | nil => rfl
  | cons step rest ih =>
    obtain ⟨-, hcalls, -⟩ := pipeline.execute_eq_visit step outputs world
    cases hresult : (pipeline.execute step outputs world).result with
    | error e =>
      rw [pipeline.runFrom_of_error sink index outputs rest world state hresult,
        pipeline.visits_of_error outputs rest world hresult, List.flatMap_singleton]
      simp [hcalls]
    | ok invocation =>
      rw [pipeline.runFrom_of_ok sink index outputs rest world state hresult,
        pipeline.visits_of_ok outputs rest world hresult, List.flatMap_cons]
      simp [hcalls, ih]

/-- How a run ends, the first step of which stands at position `index`. Either all steps are visited
and succeed, or those up to one that fails are visited; then the run fails with the name and the
position of that step. -/
def Conclusion (index : Nat) (steps : List Step) (visits : List (Visit ω))
    (result : Except PipelineError Outputs) : Prop :=
  (visits.map Visit.step = steps ∧ (∀ visit ∈ visits, visit.Succeeds) ∧
      ∃ outputs, result = .ok outputs) ∨
    ∃ before failed unvisited e, visits = before ++ [failed] ∧
      steps = before.map Visit.step ++ failed.step :: unvisited ∧
      (∀ visit ∈ before, visit.Succeeds) ∧ failed.result = .error e ∧
      result = .error (.step failed.step.name (index + before.length) e)

/-- A run ends with a visit that fails, whatever steps are left. -/
theorem Conclusion.of_error (index : Nat) (unvisited : List Step) {visit : Visit ω} {e : StepError}
    (h : visit.result = .error e) :
    Conclusion index (visit.step :: unvisited) [visit]
      (.error (.step visit.step.name index e)) :=
  .inr ⟨[], visit, unvisited, e, rfl, rfl, fun _ h => absurd h List.not_mem_nil, h, rfl⟩

/-- A run ends like what is left of it behind a visit that succeeds. -/
theorem Conclusion.of_succeeds {index : Nat} {steps : List Step} {visit : Visit ω}
    {visits : List (Visit ω)} {result : Except PipelineError Outputs} (hvisit : visit.Succeeds)
    (h : Conclusion (index + 1) steps visits result) :
    Conclusion index (visit.step :: steps) (visit :: visits) result := by
  rcases h with ⟨hsteps, hall, hresult⟩ |
    ⟨before, failed, unvisited, e, hvisits, hsteps, hall, hfailed, hresult⟩
  · refine .inl ⟨?_, List.forall_mem_cons.mpr ⟨hvisit, hall⟩, hresult⟩
    rw [List.map_cons, hsteps]
  · refine .inr ⟨visit :: before, failed, unvisited, e, ?_, ?_,
      List.forall_mem_cons.mpr ⟨hvisit, hall⟩, hfailed, ?_⟩
    · rw [hvisits, List.cons_append]
    · rw [hsteps, List.map_cons, List.cons_append]
    · rw [hresult, List.length_cons, Nat.add_assoc, Nat.add_comm 1]

/-- **A run gets through all steps or to the first that fails.** -/
theorem runFrom_conclusion (sink : Sink κ) (index : Nat) (outputs : Outputs) (steps : List Step)
    (world : ω) (state : κ) :
    Conclusion index steps (pipeline.visits outputs steps world)
      (pipeline.runFrom sink index outputs steps world state).result := by
  induction steps generalizing index outputs world state with
  | nil => exact .inl ⟨rfl, fun visit h => absurd h List.not_mem_nil, outputs, rfl⟩
  | cons step rest ih =>
    obtain ⟨hvisit, -, -⟩ := pipeline.execute_eq_visit step outputs world
    have hstep := pipeline.step_visit step outputs world
    cases hresult : (pipeline.execute step outputs world).result with
    | error e =>
      have hended := Conclusion.of_error index rest (hvisit.symm.trans hresult)
      rw [hstep] at hended
      rw [pipeline.runFrom_of_error sink index outputs rest world state hresult,
        pipeline.visits_of_error outputs rest world hresult]
      exact hended
    | ok invocation =>
      rw [pipeline.runFrom_of_ok sink index outputs rest world state hresult,
        pipeline.visits_of_ok outputs rest world hresult]
      have hmore := Conclusion.of_succeeds ⟨invocation, hvisit.symm.trans hresult⟩
        (ih (index + 1) (outputs.record step.id invocation.output)
          (pipeline.execute step outputs world).world
          (sink.deliverAll invocation.diagnostics (sink.deliver (progressLine step) none state).2).2)
      rw [hstep] at hmore
      exact hmore

/-- **The exact effects of a run of accepted entries.** The steps that it reaches are those of its
visits. For each of them in turn its messages are attempted, which are the progress line and, if the
step succeeds, its diagnostics; operations are called in the same order, one for each step that gets
so far. Operations and a sink that keep records of their own have recorded just these calls and
attempts when the run is over. The diagnostics of a step begin with the notice that its name is old,
as long as an operation that runs in place lets the notice be. -/
theorem runSteps_trace (sink : Sink κ) {entries : List Json} {steps : List Step}
    (h : Describe entries steps) (earlier : Option Outputs) (world : ω) (state : κ) :
    let run := pipeline.runSteps sink entries earlier world state
    let visits := pipeline.visits (earlier.getD .empty) steps world
    Conclusion 0 steps visits run.result ∧
      (Event.prints run.events, run.sink) =
        sink.attempts (visits.flatMap Visit.messages) state ∧
      Event.calls run.events = visits.flatMap Visit.calls ∧
      pipeline.recorded.runSteps sink.recorded entries earlier (world, []) (state, []) =
        ⟨run.result, (run.world, Event.calls run.events), (run.sink, Event.prints run.events),
          run.events⟩ ∧
      (∀ visit ∈ visits, visit.calls.length =
        match visit.result with
        | .ok _ | .error (.operation _) => 1
        | .error _ => 0) ∧
      ∀ step resolved parameters before, .ran step resolved parameters before ∈ visits →
        pipeline.registry.resolve? step.name = some resolved ∧
          ∀ invocation, (Visit.ran step resolved parameters before).result = .ok invocation →
            resolved.operation.OnlyRaises →
              invocation.diagnostics = pipeline.registry.deprecations step.name ++
                resolved.operation.raised parameters resolved.notices before := by
  dsimp only
  rw [pipeline.runSteps_of_describe sink h, pipeline.recorded.runSteps_of_describe sink.recorded h]
  refine ⟨pipeline.runFrom_conclusion sink 0 _ steps world state,
    pipeline.runFrom_prints sink 0 _ steps world state,
    pipeline.runFrom_calls sink 0 _ steps world state,
    pipeline.runFrom_recorded sink 0 _ steps world [] state [],
    fun visit _ => visit.length_calls, ?_⟩
  intro step resolved parameters before hmem
  obtain ⟨visited, outputs, previous, hvisit⟩ := pipeline.exists_visit_of_mem_visits hmem
  have hresolved := pipeline.resolve?_of_visit_eq_ran hvisit.symm
  refine ⟨hresolved, fun invocation hinvocation hraises => ?_⟩
  rw [Visit.diagnostics_of_ran hinvocation, Operation.diagnostics_run hraises,
    Registry.notices_of_resolve? hresolved]

/-- The old name and the rejected style cost two more attempts, and nothing follows the failure. -/
theorem prints_runSteps_sample :
    Describe sampleEntries sampleSteps ∧
      Event.prints (sample.runSteps (Console.sink false) sampleEntries none 0 "").events =
        [(" > Running hello step...", none),
          ((deprecatedName "hello" "greet").message, some "yellow"),
          ("once more", some "sparkling"), ("once more", none),
          (" > Running greet step...", none),
          ("once more", some "sparkling"), ("once more", none),
          (" > Running stop step...", none)] ∧
      (Event.calls (sample.runSteps (Console.sink false) sampleEntries none 0 "").events).map
          Prod.fst = ["greet", "greet", "stop"] := by
  have hdescribe : Describe sampleEntries sampleSteps :=
    .cons rfl (.cons rfl (.cons rfl (.cons rfl .nil)))
  obtain ⟨-, hprints, hcalls, -⟩ :=
    sample.runSteps_trace (Console.sink false) hdescribe none 0 ""
  refine ⟨hdescribe, (congrArg Prod.fst hprints).trans rfl, ?_⟩
  rw [hcalls]
  rfl

/-- A pipeline whose step `clear`, once called `wipe`, runs in place and leaves no diagnostics,
whichever it is handed. -/
def clearing : Pipeline Unit where
  registry := (Registry.empty.register "clear" (.suspending fun _ _ world =>
    ⟨.ok .null, [], world⟩)).registerAlias "wipe" "clear"
  environment := .empty
  store := sample.store

/-- **An operation that drops what it is handed drops the notice of an old name**: the step succeeds
under its old name, and no attempt is made to print that the name is old. -/
theorem notice_not_printed :
    ¬ ∀ (pipeline : Pipeline Unit) (entries : List Json) (steps : List Step),
      Describe entries steps →
        ∀ visit ∈ pipeline.visits .empty steps (), visit.Succeeds →
          ∀ notice ∈ pipeline.registry.deprecations visit.step.name,
            Sink.message notice ∈
              Event.prints (pipeline.runSteps (Console.sink false) entries none () "").events := by
  intro hall
  have hprinted := hall clearing [.object [("wipe", .null)]] [⟨"wipe", none, [], []⟩]
    (.cons rfl .nil) _ List.mem_cons_self ⟨_, rfl⟩ (deprecatedName "wipe" "clear") (by decide)
  have hprints : Event.prints (clearing.runSteps (Console.sink false)
      [.object [("wipe", .null)]] none () "").events = [(" > Running wipe step...", none)] := rfl
  rw [hprints] at hprinted
  exact absurd hprinted (by decide)

end Runbook.Pipeline
