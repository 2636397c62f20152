import Runbook.Proofs.Pipeline.Validation
import Runbook.Proofs.Step.Acceptance

/-! # A run is an iteration of single steps

* **`Step.entryName`**, **`Step.entryId`** — the name and the identifier of an entry, read off the
  entry itself.
* **`Pipeline.iterate`** — runs entries one after another, each by itself, on the outputs recorded
  before; there is no sink.
* **`Pipeline.runSteps_eq_iterate`** — a run of accepted entries has the result of the iteration,
  whatever the sink does. -/

namespace Runbook

namespace Step

/-- The name of an entry: its only key. -/
def entryName : Json → String
  | .object [(name, _)] => name
  | _ => ""

/-- The text that stands in a place, if one does. -/
def textAt : Option Json → Option String
  | some (.string text) => some text
  | _ => none

/-- The identifier of an entry: the text under `id` among its parameters. -/
def entryId : Json → Option String
  | .object [(_, .object fields)] => textAt (Fields.get? fields "id")
  | _ => none

/-- The identifier that a value stands for is the text that stands there. -/
theorem GivesId.eq_textAt {value : Option Json} {id : Option String} (h : GivesId value id) :
    id = textAt value := by
  cases h <;> rfl

/-- **A step has the name and the identifier of its entry.** -/
theorem eq_entry_of_ofEntry {entry : Json} {step : Step} (h : ofEntry entry = .ok step) :
    step.name = entryName entry ∧ step.id = entryId entry := by
  obtain ⟨-, hgives, hid, -⟩ := ofEntry_eq_ok_iff.mp h
  cases hgives <;> exact ⟨rfl, hid.eq_textAt⟩

end Step

namespace Pipeline

variable {ω κ : Type}

/-- **Runs entries one after another, each by itself**, the first of which stands at position
`index`. What an entry leaves is recorded for those behind it, and the first failure ends it. -/
def iterate (pipeline : Pipeline ω) (index : Nat) (outputs : Outputs) :
    List Json → ω → Except PipelineError Outputs × ω
  | [], world => (.ok outputs, world)
  | entry :: rest, world =>
    let run := pipeline.runStep entry (some outputs) world
    match run.result with
    | .error e => (.error (.step (Step.entryName entry) index e), run.world)
    | .ok output =>
      iterate pipeline (index + 1) (outputs.record (Step.entryId entry) output) rest run.world

/-- A single run of an accepted entry comes to the output of its step. -/
theorem runStep_of_ofEntry (pipeline : Pipeline ω) {entry : Json} {step : Step}
    (h : Step.ofEntry entry = .ok step) (outputs : Outputs) (world : ω) :
    (pipeline.runStep entry (some outputs) world).result =
        (pipeline.execute step outputs world).result.map Invocation.output ∧
      (pipeline.runStep entry (some outputs) world).world =
        (pipeline.execute step outputs world).world := by
  simp only [runStep, h, Option.getD_some]
  cases (pipeline.execute step outputs world).result <;> exact ⟨rfl, rfl⟩

/-- **From any position on, a run and the iteration come to the same**: the result and the world do
not depend on the sink. -/
theorem runFrom_eq_iterate (pipeline : Pipeline ω) (sink : Sink κ) {entries : List Json}
    {steps : List Step} (h : Describe entries steps) (index : Nat) (outputs : Outputs) (world : ω)
    (state : κ) :
    ((pipeline.runFrom sink index outputs steps world state).result,
        (pipeline.runFrom sink index outputs steps world state).world) =
      pipeline.iterate index outputs entries world := by
  induction h generalizing index outputs world state with
  | nil => rfl
  | @cons entry step rest steps hentry _ ih =>
    obtain ⟨hname, hid⟩ := Step.eq_entry_of_ofEntry hentry
    obtain ⟨hresult, hworld⟩ := pipeline.runStep_of_ofEntry hentry outputs world
    rw [iterate, hresult, hworld, runFrom]
    cases pipeline.execute step outputs world with
    | mk result after events =>
      cases result with
      | error e => simp only [Except.map, hname]
      | ok invocation =>
        simp only [Except.map, ← hid]
        exact ih (index + 1) (outputs.record step.id invocation.output) after _

/-- **A run of accepted entries is the iteration of its single steps.** It starts from the earlier
outputs or from none and comes to the same result, with the same name, position and cause where it
fails, and leaves the same world. The sink appears on one side only: whatever it rejects, and
however it changes from call to call, makes no difference. -/
theorem runSteps_eq_iterate (pipeline : Pipeline ω) (sink : Sink κ) (entries : List Json)
    (earlier : Option Outputs) (world : ω) (state : κ)
    (h : ∀ entry ∈ entries, ∃ step, Step.ofEntry entry = .ok step) :
    ((pipeline.runSteps sink entries earlier world state).result,
        (pipeline.runSteps sink entries earlier world state).world) =
      pipeline.iterate 0 (earlier.getD .empty) entries world := by
  obtain ⟨steps, hsteps⟩ := exists_describe_iff.mpr h
  rw [pipeline.runSteps_of_describe sink hsteps]
  exact pipeline.runFrom_eq_iterate sink hsteps 0 _ world state

/-- The console rejects the style of two warnings, which the result does not show. -/
theorem runSteps_sample_eq_iterate :
    (∀ entry ∈ sampleEntries, ∃ step, Step.ofEntry entry = .ok step) ∧
      (sample.runSteps (Console.sink false) sampleEntries none 0 "").result =
        .error (.step "stop" 2 (.operation (.ofMessage "no way on"))) := by
  have haccepted : ∀ entry ∈ sampleEntries, ∃ step, Step.ofEntry entry = .ok step := by
    simp only [sampleEntries, List.forall_mem_cons]
    exact ⟨⟨_, rfl⟩, ⟨_, rfl⟩, ⟨_, rfl⟩, ⟨_, rfl⟩, fun entry h => absurd h List.not_mem_nil⟩
  have hrun := sample.runSteps_eq_iterate (Console.sink false) sampleEntries none 0 "" haccepted
  exact ⟨haccepted, (congrArg Prod.fst hrun).trans rfl⟩

end Pipeline

end Runbook
