import Runbook.Proofs.Pipeline.Validation
import Runbook.Proofs.Pipeline.Visits

/-! # A run in two parts

A list of entries may be cut anywhere and run in two parts, the second of which starts from what the
first has left. All that this changes is that the second part counts its positions anew.

* **`PipelineRun.delayed`** — a run whose positions are counted from further behind.
* **`PipelineRun.andThen`** — a run and, if it succeeds, another one behind it.
* **`Pipeline.runFrom_add`** — the position of its first step makes no other difference to a run.
* **`Pipeline.runFrom_append`** — a run of two lists of steps is a run and another one behind it.
* **`Pipeline.runSteps_append`** — the same for entries, with results and effects one by one. -/

namespace Runbook

/-! ## Positions -/

/-- An error when `count` more entries stand in front. -/
def PipelineError.delayed (count : Nat) : PipelineError → PipelineError
  | .format index cause => .format (index + count) cause
  | .step name index cause => .step name (index + count) cause

namespace Event

/-- An event when `count` more entries stand in front: only the log entry for a failure has a
position. -/
def delayed (count : Nat) : Event → Event
  | .log (.stepFailed step index error) => .log (.stepFailed step (index + count) error)
  | event => event

/-- Positions are nowhere but in the log. -/
theorem changesLog_delayed (count : Nat) : ChangesLog (delayed count) := by
  intro event
  cases event with
  | log entry =>
    cases entry with
    | stepFailed step index error => exact .inr ⟨_, _, rfl, rfl⟩
    | _ => exact .inl rfl
  | _ => exact .inl rfl

@[simp] theorem prints_map_delayed (count : Nat) (events : List Event) :
    prints (events.map (delayed count)) = prints events :=
  (changesLog_delayed count).prints_map events

@[simp] theorem calls_map_delayed (count : Nat) (events : List Event) :
    calls (events.map (delayed count)) = calls events :=
  (changesLog_delayed count).calls_map events

end Event

/-- An attempt says nothing of positions. -/
@[simp] theorem Report.map_delayed_attempt {ω : Type} (report : Report ω) (name : String)
    (parameters : Fields) (count : Nat) :
    (report.attempt name parameters).events.map (Event.delayed count) =
      (report.attempt name parameters).events := by
  rw [attempt]
  cases report.outcome with
  | error failure => simp [Event.delayed]
  | ok output => rfl

/-- A delivery says nothing of positions. -/
@[simp] theorem Sink.map_delayed_deliver {κ : Type} (sink : Sink κ) (message : String)
    (style : Option String) (state : κ) (count : Nat) :
    (sink.deliver message style state).1.map (Event.delayed count) =
      (sink.deliver message style state).1 := by
  rw [deliver]
  split
  · rfl
  · split
    · rfl
    · split <;> rfl

@[simp] theorem Sink.map_delayed_deliverAll {κ : Type} (sink : Sink κ)
    (diagnostics : List Diagnostic) (state : κ) (count : Nat) :
    (sink.deliverAll diagnostics state).1.map (Event.delayed count) =
      (sink.deliverAll diagnostics state).1 := by
  induction diagnostics generalizing state with
  | nil => rfl
  | cons diagnostic rest ih =>
    rw [deliverAll]
    simp only [List.map_append, map_delayed_deliver, ih]

namespace PipelineRun

variable {ω κ : Type}

/-- **A run when `count` more entries stand in front**: its error and the log entry for it have
other positions, and that is all. -/
def delayed (count : Nat) (run : PipelineRun ω κ) : PipelineRun ω κ :=
  { run with
    result := run.result.mapError (PipelineError.delayed count)
    events := run.events.map (Event.delayed count) }

/-- **A run and, if it succeeds, another one behind it**, which starts from the outputs, the world
and the sink that the first leaves. -/
def andThen (run : PipelineRun ω κ) (next : Outputs → ω → κ → PipelineRun ω κ) :
    PipelineRun ω κ :=
  match run.result with
  | .error _ => run
  | .ok outputs =>
    let more := next outputs run.world run.sink
    { more with events := run.events ++ more.events }

theorem andThen_of_error {run : PipelineRun ω κ} {e : PipelineError} (h : run.result = .error e)
    (next : Outputs → ω → κ → PipelineRun ω κ) : run.andThen next = run := by
  rw [andThen, h]

theorem andThen_of_ok {run : PipelineRun ω κ} {outputs : Outputs} (h : run.result = .ok outputs)
    (next : Outputs → ω → κ → PipelineRun ω κ) :
    run.andThen next =
      { next outputs run.world run.sink with
        events := run.events ++ (next outputs run.world run.sink).events } := by
  rw [andThen, h]

/-- Events in front of a first run are events in front of both. -/
theorem andThen_prepend (events : List Event) (run : PipelineRun ω κ)
    (next : Outputs → ω → κ → PipelineRun ω κ) :
    { run with events := events ++ run.events }.andThen next =
      { run.andThen next with events := events ++ (run.andThen next).events } := by
  obtain ⟨result, world, sink, tail⟩ := run
  cases result with
  | error e => rfl
  | ok outputs => simp only [andThen, List.append_assoc]

end PipelineRun

namespace Pipeline

variable {ω κ : Type} (pipeline : Pipeline ω)

/-- An execution says nothing of positions. -/
@[simp] theorem map_delayed_execute (step : Step) (outputs : Outputs) (world : ω) (count : Nat) :
    (pipeline.execute step outputs world).events.map (Event.delayed count) =
      (pipeline.execute step outputs world).events := by
  rw [execute]
  cases Resolution.parameters (pipeline.sources outputs) step.parameters with
  | error cause => rfl
  | ok parameters =>
    dsimp only
    cases hresolve : pipeline.registry.resolve? step.name with
    | none =>
      rw [Registry.invoke_of_resolve?_eq_none hresolve]
      rfl
    | some resolved =>
      rw [Registry.invoke_of_resolve? hresolve]
      simp [Event.delayed]

/-- **The position of its first step makes no other difference to a run.** -/
theorem runFrom_add (sink : Sink κ) (index count : Nat) (outputs : Outputs) (steps : List Step)
    (world : ω) (state : κ) :
    pipeline.runFrom sink (index + count) outputs steps world state =
      (pipeline.runFrom sink index outputs steps world state).delayed count := by
  induction steps generalizing index outputs world state with
  | nil => rfl
  | cons step rest ih =>
    cases hresult : (pipeline.execute step outputs world).result with
    | error e =>
      rw [pipeline.runFrom_of_error sink _ outputs rest world state hresult,
        pipeline.runFrom_of_error sink _ outputs rest world state hresult]
      simp [PipelineRun.delayed, PipelineError.delayed, Event.delayed, Except.mapError]
    | ok invocation =>
      rw [pipeline.runFrom_of_ok sink _ outputs rest world state hresult,
        pipeline.runFrom_of_ok sink _ outputs rest world state hresult, Nat.add_right_comm]
      simp [PipelineRun.delayed, ih]

/-- **A run of two lists of steps is a run of the first and, behind it, one of the second.** -/
theorem runFrom_append (sink : Sink κ) (index : Nat) (outputs : Outputs) (before behind : List Step)
    (world : ω) (state : κ) :
    pipeline.runFrom sink index outputs (before ++ behind) world state =
      (pipeline.runFrom sink index outputs before world state).andThen fun outputs world state =>
        pipeline.runFrom sink (index + before.length) outputs behind world state := by
  induction before generalizing index outputs world state with
  | nil => rfl
  | cons step rest ih =>
    rw [List.cons_append]
    cases hresult : (pipeline.execute step outputs world).result with
    | error e =>
      rw [pipeline.runFrom_of_error sink index outputs _ world state hresult,
        pipeline.runFrom_of_error sink index outputs _ world state hresult]
      rfl
    | ok invocation =>
      rw [pipeline.runFrom_of_ok sink index outputs _ world state hresult,
        pipeline.runFrom_of_ok sink index outputs _ world state hresult]
      dsimp only
      rw [PipelineRun.andThen_prepend, ih, List.length_cons, Nat.add_assoc, Nat.add_comm 1]

/-- A run of two lists of accepted entries is a run of the first and, behind it, one of the second
that starts from its outputs. -/
theorem runSteps_append_eq_andThen (sink : Sink κ) {before behind : List Json}
    (hbefore : ∀ entry ∈ before, ∃ step, Step.ofEntry entry = .ok step)
    (hbehind : ∀ entry ∈ behind, ∃ step, Step.ofEntry entry = .ok step)
    (earlier : Option Outputs) (world : ω) (state : κ) :
    pipeline.runSteps sink (before ++ behind) earlier world state =
      (pipeline.runSteps sink before earlier world state).andThen fun outputs world state =>
        (pipeline.runSteps sink behind (some outputs) world state).delayed before.length := by
  obtain ⟨first, hfirst⟩ := exists_describe_iff.mpr hbefore
  obtain ⟨second, hsecond⟩ := exists_describe_iff.mpr hbehind
  have hboth : Describe (before ++ behind) (first ++ second) := List.rel_append hfirst hsecond
  have hlength : before.length = first.length := List.Forall₂.length_eq hfirst
  have hnext : (fun outputs world state =>
        (pipeline.runSteps sink behind (some outputs) world state).delayed before.length) =
      fun outputs world state =>
        pipeline.runFrom sink (0 + first.length) outputs second world state := by
    funext outputs world state
    rw [pipeline.runSteps_of_describe sink hsecond, Option.getD_some, hlength, runFrom_add]
  rw [pipeline.runSteps_of_describe sink hboth, pipeline.runSteps_of_describe sink hfirst, hnext,
    runFrom_append]

/-- **A run may be split anywhere.** A run of two lists of accepted entries, one behind the other,
is a run of the first list and, if that succeeds, a run of the second that starts from the outputs,
the world and the sink that the first has left. It has the result of the second run, in which the
position of a failed step grows by the length of the first list; operations are called and messages
attempted in the two runs one after the other, and the log differs in that position alone. If the
first run fails, the whole run is this run, so that nothing happens to the second list. -/
theorem runSteps_append (sink : Sink κ) (before behind : List Json)
    (hbefore : ∀ entry ∈ before, ∃ step, Step.ofEntry entry = .ok step)
    (hbehind : ∀ entry ∈ behind, ∃ step, Step.ofEntry entry = .ok step)
    (earlier : Option Outputs) (world : ω) (state : κ) :
    let first := pipeline.runSteps sink before earlier world state
    let whole := pipeline.runSteps sink (before ++ behind) earlier world state
    (∀ e, first.result = .error e → whole = first) ∧
      ∀ outputs, first.result = .ok outputs →
        let second := pipeline.runSteps sink behind (some outputs) first.world first.sink
        whole.result = second.result.mapError (PipelineError.delayed before.length) ∧
          whole.world = second.world ∧ whole.sink = second.sink ∧
          Event.calls whole.events = Event.calls first.events ++ Event.calls second.events ∧
          Event.prints whole.events = Event.prints first.events ++ Event.prints second.events ∧
          whole.events = first.events ++ second.events.map (Event.delayed before.length) := by
  intro first whole
  have hwhole : whole = first.andThen fun outputs world state =>
      (pipeline.runSteps sink behind (some outputs) world state).delayed before.length :=
    pipeline.runSteps_append_eq_andThen sink hbefore hbehind earlier world state
  constructor
  · intro e he
    rw [hwhole, PipelineRun.andThen_of_error he]
  · intro outputs houtputs second
    have hsecond : whole = { second.delayed before.length with
        events := first.events ++ (second.delayed before.length).events } := by
      rw [hwhole, PipelineRun.andThen_of_ok houtputs]
    rw [hsecond]
    refine ⟨rfl, rfl, rfl, ?_, ?_, rfl⟩
    · simp [PipelineRun.delayed]
    · simp [PipelineRun.delayed]

/-- The step that fails is the first of the second part, and the third of the whole. -/
theorem runSteps_sample_append :
    ((∀ entry ∈ sampleEntries.take 2, ∃ step, Step.ofEntry entry = .ok step) ∧
        ∀ entry ∈ sampleEntries.drop 2, ∃ step, Step.ofEntry entry = .ok step) ∧
      (∃ outputs, (sample.runSteps (Console.sink false) (sampleEntries.take 2) none 0 "").result =
          .ok outputs) ∧
      (sample.runSteps (Console.sink false) (sampleEntries.take 2 ++ sampleEntries.drop 2) none 0
        "").result = .error (.step "stop" 2 (.operation (.ofMessage "no way on"))) := by
  have hbefore : ∀ entry ∈ sampleEntries.take 2, ∃ step, Step.ofEntry entry = .ok step := by
    simp only [sampleEntries, List.take, List.forall_mem_cons]
    exact ⟨⟨_, rfl⟩, ⟨_, rfl⟩, fun entry h => absurd h List.not_mem_nil⟩
  have hbehind : ∀ entry ∈ sampleEntries.drop 2, ∃ step, Step.ofEntry entry = .ok step := by
    simp only [sampleEntries, List.drop, List.forall_mem_cons]
    exact ⟨⟨_, rfl⟩, ⟨_, rfl⟩, fun entry h => absurd h List.not_mem_nil⟩
  obtain ⟨-, hsplit⟩ := sample.runSteps_append (Console.sink false) (sampleEntries.take 2)
    (sampleEntries.drop 2) hbefore hbehind none 0 ""
  obtain ⟨hresult, -⟩ := hsplit _ rfl
  exact ⟨⟨hbefore, hbehind⟩, ⟨_, rfl⟩, hresult.trans rfl⟩

end Pipeline

end Runbook
