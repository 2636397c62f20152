import Runbook.Proofs.Pipeline.Visits

/-! # Events are what operations and sinks see

The events of a run are put down by the run itself. Here the operations and the sink keep records of
their own, of the calls that reach them and of the messages that they are asked to print, and the
records turn out to hold the same.

* **`Registry.recorded`** — the registry whose operations record their calls in the world.
* **`Pipeline.runFrom_recorded`** — a run with records ends like the run without them, and the records
  hold the calls and the attempts to print among its events, in order. -/

namespace Runbook

/-- Calls of operations by their names, in order. -/
abbrev Calls := List (String × Fields)

/-- A behaviour that records each call, under the name of its operation, before it is carried out. -/
def recordedBehaviour {ω : Type} (name : String) (behaviour : Behaviour ω) :
    Behaviour (ω × Calls) :=
  fun parameters collected world =>
    let report := behaviour parameters collected world.1
    ⟨report.outcome, report.diagnostics, report.world, world.2 ++ [(name, parameters)]⟩

namespace Operation

variable {ω : Type}

/-- The operation that records its calls. -/
def recorded (name : String) : Operation ω → Operation (ω × Calls)
  | .blocking behaviour => .blocking (recordedBehaviour name behaviour)
  | .suspending behaviour => .suspending (recordedBehaviour name behaviour)

/-- A record makes no difference to a report but for the call in it. -/
theorem run_recorded (name : String) (operation : Operation ω) (parameters : Fields)
    (collected : List Diagnostic) (world : ω) (calls : Calls) :
    (operation.recorded name).run parameters collected (world, calls) =
      ⟨(operation.run parameters collected world).outcome,
        (operation.run parameters collected world).diagnostics,
        ((operation.run parameters collected world).world, calls ++ [(name, parameters)])⟩ := by
  cases operation <;> rfl

end Operation

namespace Registry

variable {ω : Type}

/-- The registry whose operations record their calls, each under its own name. -/
def recorded (registry : Registry ω) : Registry (ω × Calls) where
  operations :=
    ⟨registry.operations.entries.map fun entry => (entry.1, entry.2.recorded entry.1), by
      simpa only [List.map_map, Function.comp_def] using registry.operations.nodup⟩
  aliases := registry.aliases

theorem get?_operations_recorded (registry : Registry ω) (name : String) :
    registry.recorded.operations.get? name =
      (registry.operations.get? name).map (Operation.recorded name) := by
  rw [Table.get?, Table.get?, recorded]
  dsimp only
  induction registry.operations.entries with
  | nil => rfl
  | cons entry rest ih =>
    obtain ⟨key, operation⟩ := entry
    rw [List.map_cons, List.lookup_cons, List.lookup_cons, ih]
    cases hkey : name == key with
    | true => rw [eq_of_beq hkey]; rfl
    | false => rfl

/-- A name means the same operation, which records its calls now. -/
theorem resolve?_recorded (registry : Registry ω) (name : String) :
    registry.recorded.resolve? name =
      (registry.resolve? name).map fun resolved =>
        ⟨resolved.name, resolved.operation.recorded resolved.name, resolved.oldName⟩ := by
  have haliases : registry.recorded.aliases = registry.aliases := rfl
  rw [resolve?, resolve?, haliases]
  cases registry.aliases.get? name with
  | none =>
    rw [get?_operations_recorded, Option.map_map, Option.map_map]
    rfl
  | some target =>
    dsimp only
    rw [get?_operations_recorded, Option.map_map, Option.map_map]
    rfl

end Registry

namespace Pipeline

variable {ω κ : Type} (pipeline : Pipeline ω)

/-- The pipeline whose operations record their calls. -/
def recorded : Pipeline (ω × Calls) :=
  ⟨pipeline.registry.recorded, pipeline.environment, pipeline.store⟩

/-- **The record of an execution holds the calls among its events.** -/
theorem execute_recorded (step : Step) (outputs : Outputs) (world : ω) (calls : Calls) :
    pipeline.recorded.execute step outputs (world, calls) =
      ⟨(pipeline.execute step outputs world).result,
        ((pipeline.execute step outputs world).world,
          calls ++ Event.calls (pipeline.execute step outputs world).events),
        (pipeline.execute step outputs world).events⟩ := by
  have hsources : pipeline.recorded.sources outputs = pipeline.sources outputs := rfl
  rw [execute, execute, hsources]
  cases Resolution.parameters (pipeline.sources outputs) step.parameters with
  | error cause => simp
  | ok parameters =>
    simp only [Registry.invoke]
    rw [recorded, Registry.resolve?_recorded]
    cases pipeline.registry.resolve? step.name with
    | none => simp
    | some resolved =>
      have hnotices : (⟨resolved.name, resolved.operation.recorded resolved.name,
          resolved.oldName⟩ : Resolved (ω × Calls)).notices = resolved.notices := rfl
      simp only [Option.map_some, hnotices, Operation.run_recorded]
      cases (resolved.operation.run parameters resolved.notices world).outcome <;> simp

/-- **A run with records ends like the run without them.** The records hold what the events say was
called and printed, in the same order, and nothing else. -/
theorem runFrom_recorded (sink : Sink κ) (index : Nat) (outputs : Outputs) (steps : List Step)
    (world : ω) (calls : Calls) (state : κ) (printed : List (String × Option String)) :
    let run := pipeline.runFrom sink index outputs steps world state
    pipeline.recorded.runFrom sink.recorded index outputs steps (world, calls) (state, printed) =
      ⟨run.result, (run.world, calls ++ Event.calls run.events),
        (run.sink, printed ++ Event.prints run.events), run.events⟩ := by
  induction steps generalizing index outputs world calls state printed with
  | nil => simp [runFrom]
  | cons step rest ih =>
    obtain ⟨-, -, hprints⟩ := pipeline.execute_eq_visit step outputs world
    have hexecute := pipeline.execute_recorded step outputs world calls
    cases hresult : (pipeline.execute step outputs world).result with
    | error e =>
      rw [pipeline.runFrom_of_error sink index outputs rest world state hresult,
        pipeline.recorded.runFrom_of_error _ index outputs rest _ _ (by rw [hexecute, hresult]),
        hexecute, Sink.deliver_recorded]
      simp [hprints]
    | ok invocation =>
      rw [pipeline.runFrom_of_ok sink index outputs rest world state hresult,
        pipeline.recorded.runFrom_of_ok _ index outputs rest _ _ (by rw [hexecute, hresult]),
        hexecute, Sink.deliver_recorded]
      simp [hprints, Sink.deliverAll_recorded, ih]

end Pipeline

end Runbook
