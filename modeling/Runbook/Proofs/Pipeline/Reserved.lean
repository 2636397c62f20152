import Runbook.Proofs.Pipeline.Iteration
import Runbook.Proofs.Pipeline.Parameters
import Runbook.Proofs.Resolution.Agreement
import Runbook.Proofs.Resolution.Shape
import Runbook.Proofs.Step.Acceptance

/-! # Reserved parameters stay out of a run

The parameters `id` and `requires` are about a step and are not handed to its operation. A run takes
them as they are: the one is where an output is recorded, the other is what an error may name.

* **`Step.entryFields`** — the parameters of an entry, read off the entry itself.
* **`Step.SameButRequires`**, **`PipelineRun.SameButRequires`** — entries that differ in their packages
  only, and runs that differ in the packages of an error only.
* **`Pipeline.runFrom_sameButRequires`** — the packages of its steps make no other difference to a run.
* **`Pipeline.keys_calls_visits`** — the keys of what the operations of a run are handed.
* **`Pipeline.FailsFor`** — the reasons for which the step of an entry fails.
* **`Pipeline.runSteps_keeps_reserved_apart`** — all this for runs of entries. -/

namespace Runbook

/-! ## Entries -/

namespace Step

variable {entry first second : Json} {step other : Step}

/-- The parameters of an entry, the reserved ones among them. -/
def entryFields : Json → Fields
  | .object [(_, .object fields)] => fields
  | _ => []

/-- **Entries that differ in nothing but the packages they require.** -/
structure SameButRequires (first second : Json) : Prop where
  name : entryName first = entryName second
  parameters : (entryFields first).erase "requires" = (entryFields second).erase "requires"

/-- The identifier of an entry stands among its parameters. -/
theorem entryId_eq (entry : Json) :
    entryId entry = textAt (Fields.get? (entryFields entry) "id") := by
  unfold entryId
  split
  · rfl
  · rename_i hother
    rw [entryFields.eq_2 entry hother]
    rfl

/-- **A step has the parameters of its entry without the reserved ones.** -/
theorem parameters_of_ofEntry (h : ofEntry entry = .ok step) :
    step.parameters = unreserved (entryFields entry) := by
  obtain ⟨-, hgives, -, -⟩ := ofEntry_eq_ok_iff.mp h
  cases hgives <;> rfl

/-- A step has the packages that stand among the parameters of its entry. -/
theorem givesRequires_of_ofEntry (h : ofEntry entry = .ok step) :
    GivesRequires (Fields.get? (entryFields entry) "requires") step.requires := by
  obtain ⟨-, hgives, -, hrequires⟩ := ofEntry_eq_ok_iff.mp h
  cases hgives <;> exact hrequires

/-- What is reserved may be missing from the start. -/
theorem unreserved_erase {key : String} (h : key ∈ reserved) (fields : Fields) :
    unreserved (fields.erase key) = unreserved fields := by
  rw [unreserved, unreserved, Fields.erase, List.filter_filter]
  refine List.filter_congr fun field _ => ?_
  by_cases hkey : field.1 = key
  · simp [hkey, h]
  · simp [hkey]

/-- The keys of the other parameters are the keys that are not reserved. -/
theorem keys_unreserved (fields : Fields) :
    Fields.keys (unreserved fields) = (Fields.keys fields).filter (· ∉ reserved) := by
  rw [Fields.keys, Fields.keys, List.filter_map]
  rfl

/-- Entries that differ in their packages describe steps that do. -/
theorem SameButRequires.exists_eq (h : SameButRequires first second)
    (hfirst : ofEntry first = .ok step) (hsecond : ofEntry second = .ok other) :
    ∃ requires, other = { step with requires := requires } := by
  obtain ⟨hname, hid⟩ := eq_entry_of_ofEntry hfirst
  obtain ⟨hname', hid'⟩ := eq_entry_of_ofEntry hsecond
  have hsame : step.id = other.id := by
    have herased : ∀ fields, Fields.get? fields "id" = Fields.get? (fields.erase "requires") "id" :=
      fun fields => (Fields.get?_erase fields "requires" "id").symm
    rw [hid, hid', entryId_eq, entryId_eq, herased, h.parameters, ← herased]
  have hparameters : step.parameters = other.parameters := by
    have hreserved : "requires" ∈ reserved := by decide
    rw [parameters_of_ofEntry hfirst, parameters_of_ofEntry hsecond, ← unreserved_erase hreserved,
      h.parameters, unreserved_erase hreserved]
  refine ⟨other.requires, ?_⟩
  rw [hsame, hparameters, hname, h.name, ← hname']

end Step

/-! ## Runs that differ in the packages of an error -/

/-- The error without the packages that it names. -/
def StepError.forgetRequires : StepError → StepError
  | .unknownStep name _ => .unknownStep name []
  | e => e

/-- The error without the packages that its cause names. -/
def PipelineError.forgetRequires : PipelineError → PipelineError
  | .format index cause => .format index cause
  | .step name index cause => .step name index cause.forgetRequires

namespace Event

/-- The event without the packages that are named in it: only the log entry for a failure names any. -/
def forgetRequires : Event → Event
  | .log (.stepFailed step index error) => .log (.stepFailed step index error.forgetRequires)
  | event => event

/-- Packages are named nowhere but in the log. -/
theorem changesLog_forgetRequires : ChangesLog forgetRequires := by
  intro event
  cases event with
  | log entry =>
    cases entry with
    | stepFailed step index error => exact .inr ⟨_, _, rfl, rfl⟩
    | _ => exact .inl rfl
  | _ => exact .inl rfl

end Event

/-- **Runs that differ at most in the packages that an error for an unknown step names.** -/
structure PipelineRun.SameButRequires {ω κ : Type} (first second : PipelineRun ω κ) : Prop where
  result : first.result.mapError PipelineError.forgetRequires =
    second.result.mapError PipelineError.forgetRequires
  world : first.world = second.world
  sink : first.sink = second.sink
  events : first.events.map Event.forgetRequires = second.events.map Event.forgetRequires

namespace PipelineRun.SameButRequires

variable {ω κ : Type} {first second : PipelineRun ω κ}

theorem calls_eq (h : first.SameButRequires second) :
    Event.calls first.events = Event.calls second.events := by
  rw [← Event.changesLog_forgetRequires.calls_map, h.events, Event.changesLog_forgetRequires.calls_map]

theorem prints_eq (h : first.SameButRequires second) :
    Event.prints first.events = Event.prints second.events := by
  rw [← Event.changesLog_forgetRequires.prints_map, h.events,
    Event.changesLog_forgetRequires.prints_map]

end PipelineRun.SameButRequires

namespace Pipeline

variable {ω κ : Type} (pipeline : Pipeline ω)

/-- **The packages of a step are seen where its name means nothing**, and then in the error alone. -/
theorem execute_requires (step : Step) (requires : List String) (outputs : Outputs) (world : ω) :
    let attempt := pipeline.execute step outputs world
    let other := pipeline.execute { step with requires := requires } outputs world
    attempt.result.mapError StepError.forgetRequires =
        other.result.mapError StepError.forgetRequires ∧
      attempt.world = other.world ∧ attempt.events = other.events := by
  rw [execute, execute]
  cases Resolution.parameters (pipeline.sources outputs) step.parameters with
  | error cause => exact ⟨rfl, rfl, rfl⟩
  | ok parameters =>
    cases hresolve : pipeline.registry.resolve? step.name with
    | none =>
      dsimp only
      rw [Registry.invoke_of_resolve?_eq_none hresolve, Registry.invoke_of_resolve?_eq_none hresolve]
      exact ⟨rfl, rfl, rfl⟩
    | some resolved =>
      dsimp only
      rw [Registry.invoke_of_resolve? hresolve, Registry.invoke_of_resolve? hresolve]
      exact ⟨rfl, rfl, rfl⟩

/-- **The packages of its steps make no other difference to a run.** -/
theorem runFrom_sameButRequires (sink : Sink κ) {steps others : List Step}
    (h : List.Forall₂ (fun step other => ∃ requires, other = { step with requires := requires })
      steps others) (index : Nat) (outputs : Outputs) (world : ω) (state : κ) :
    (pipeline.runFrom sink index outputs steps world state).SameButRequires
      (pipeline.runFrom sink index outputs others world state) := by
  -- on the steps: both runs are in the same world on the same outputs until they fail together
  induction h generalizing index outputs world state with
  | nil => exact ⟨rfl, rfl, rfl, rfl⟩
  | @cons step other rest more hstep _ ih =>
    obtain ⟨requires, rfl⟩ := hstep
    obtain ⟨hresult, hworld, hevents⟩ := pipeline.execute_requires step requires outputs world
    cases hfirst : (pipeline.execute step outputs world).result with
    | error e =>
      cases hsecond : (pipeline.execute { step with requires := requires } outputs world).result with
      | ok invocation =>
        rw [hfirst, hsecond] at hresult
        cases hresult
      | error e' =>
        rw [hfirst, hsecond] at hresult
        have herror : e.forgetRequires = e'.forgetRequires := Except.error.inj hresult
        rw [pipeline.runFrom_of_error sink index outputs rest world state hfirst,
          pipeline.runFrom_of_error sink index outputs more world state hsecond, ← hevents, ← hworld]
        refine ⟨?_, rfl, rfl, ?_⟩
        · simp only [Except.mapError, PipelineError.forgetRequires, herror]
        · simp only [List.map_append, List.map_cons, List.map_nil, Event.forgetRequires, herror]
          rfl
    | ok invocation =>
      cases hsecond : (pipeline.execute { step with requires := requires } outputs world).result with
      | error e =>
        rw [hfirst, hsecond] at hresult
        cases hresult
      | ok invocation' =>
        rw [hfirst, hsecond] at hresult
        cases hresult
        rw [pipeline.runFrom_of_ok sink index outputs rest world state hfirst,
          pipeline.runFrom_of_ok sink index outputs more world state hsecond, ← hevents, ← hworld]
        have hmore := ih (index + 1) (outputs.record step.id invocation.output)
          (pipeline.execute step outputs world).world
          (sink.deliverAll invocation.diagnostics (sink.deliver (progressLine step) none state).2).2
        refine ⟨hmore.result, hmore.world, hmore.sink, ?_⟩
        simp only [List.map_append]
        exact congrArg _ hmore.events

/-! ## What operations are handed -/

/-- An operation is handed the parameters of its step, each under its own key. -/
theorem keys_calls_visit (step : Step) (outputs : Outputs) (world : ω) :
    ∀ call ∈ (pipeline.visit step outputs world).calls,
      Fields.keys call.2 = Fields.keys step.parameters := by
  rw [visit]
  cases hparameters : Resolution.parameters (pipeline.sources outputs) step.parameters with
  | error cause => exact fun call h => absurd h List.not_mem_nil
  | ok parameters =>
    dsimp only
    cases pipeline.registry.resolve? step.name with
    | none => exact fun call h => absurd h List.not_mem_nil
    | some resolved =>
      exact List.forall_mem_singleton.mpr (Resolution.valueFields_eq_ok_iff.mp hparameters).1

/-- **The operations of a run are handed the parameters of its steps**, one after another, for as long
as the run goes on. -/
theorem keys_calls_visits (outputs : Outputs) (steps : List Step) (world : ω) :
    ((pipeline.visits outputs steps world).flatMap Visit.calls).map (fun call => Fields.keys call.2)
      <+: steps.map fun step => Fields.keys step.parameters := by
  induction steps generalizing outputs world with
  | nil => exact List.nil_prefix
  | cons step rest ih =>
    -- the calls of one visit, all of them with the keys of its step
    have hcalls : (pipeline.visit step outputs world).calls.map (fun call => Fields.keys call.2) =
        List.replicate (pipeline.visit step outputs world).calls.length
          (Fields.keys step.parameters) := by
      rw [← List.map_const']
      exact List.map_congr_left (pipeline.keys_calls_visit step outputs world)
    obtain ⟨hvisit, -, -⟩ := pipeline.execute_eq_visit step outputs world
    rw [Visit.length_calls, ← hvisit] at hcalls
    cases hresult : (pipeline.execute step outputs world).result with
    | ok invocation =>
      rw [hresult] at hcalls
      rw [pipeline.visits_of_ok outputs rest world hresult, List.flatMap_cons, List.map_append, hcalls,
        List.map_cons]
      exact (List.prefix_cons_inj _).mpr (ih _ _)
    | error e =>
      rw [hresult] at hcalls
      rw [pipeline.visits_of_error outputs rest world hresult, List.flatMap_singleton, hcalls,
        List.map_cons]
      cases e with
      | operation failure => exact (List.prefix_cons_inj _).mpr List.nil_prefix
      | format cause => exact List.nil_prefix
      | resolution cause => exact List.nil_prefix
      | unknownStep name requires => exact List.nil_prefix

/-! ## Entries in a run -/

/-- Lists of entries that differ in their packages describe lists of steps that do. -/
theorem forall₂_of_describe {entries others : List Json} {steps more : List Step}
    (h : List.Forall₂ Step.SameButRequires entries others) (hsteps : Describe entries steps)
    (hmore : Describe others more) :
    List.Forall₂ (fun step other => ∃ requires, other = { step with requires := requires })
      steps more := by
  induction h generalizing steps more with
  | nil =>
    cases hsteps
    cases hmore
    exact .nil
  | cons hentry _ ih =>
    cases hsteps with
    | cons hstep hsteps =>
      cases hmore with
      | cons hother hmore => exact .cons (hentry.exists_eq hstep hother) (ih hsteps hmore)

/-- A step is executed alike where the references in its parameters are answered alike. -/
theorem execute_of_readAlike {step : Step} {environment : Environment} {store : Store}
    {outputs : Outputs}
    (h : ∀ found ∈ Placeholder.collect "parameters" (.object step.parameters), ∀ target,
      Reference.parse? found.expression.toList = some target →
        target.ReadAlike (pipeline.sources outputs) ⟨outputs, environment, store⟩) (world : ω) :
    pipeline.execute step outputs world =
      (Pipeline.mk pipeline.registry environment store).execute step outputs world := by
  have hsources : (Pipeline.mk pipeline.registry environment store).sources outputs =
      ⟨outputs, environment, store⟩ := rfl
  rw [execute, execute, Resolution.parameters_congr h, hsources]

/-- **Why the step of an entry fails** on the outputs that are there by then. A placeholder is to blame
only if it stands in a parameter that is not reserved, and packages are named as they are written. -/
inductive FailsFor (entry : Json) (outputs : Outputs) : StepError → Prop where
  /-- A placeholder has no value. -/
  | placeholder {found : Placeholder} {cause : ResolutionError}
      (hfound : found ∈ Placeholder.collect "parameters"
        (.object (Step.unreserved (Step.entryFields entry))))
      (hcause : Resolution.expression (pipeline.sources outputs) found.expression.toList =
        .error cause) : FailsFor entry outputs (.resolution cause)
  /-- The name means nothing. -/
  | name {requires : List String}
      (hnone : pipeline.registry.resolve? (Step.entryName entry) = none)
      (hrequires : Step.GivesRequires (Fields.get? (Step.entryFields entry) "requires") requires) :
      FailsFor entry outputs (.unknownStep (Step.entryName entry) requires)
  /-- The operation fails on parameters without the reserved ones. -/
  | operation {parameters : Fields} {resolved : Resolved ω} {world : ω} {failure : Failure}
      (hresolved : pipeline.registry.resolve? (Step.entryName entry) = some resolved)
      (hkeys : Fields.keys parameters = Fields.keys (Step.unreserved (Step.entryFields entry)))
      (hfails : (resolved.operation.run parameters resolved.notices world).outcome =
        .error failure) : FailsFor entry outputs (.operation failure)

/-- A step fails for no other reasons than these. -/
theorem failsFor_of_execute {entry : Json} {step : Step} {outputs : Outputs} {world : ω}
    {e : StepError} (h : Step.ofEntry entry = .ok step)
    (hfails : (pipeline.execute step outputs world).result = .error e) :
    pipeline.FailsFor entry outputs e := by
  obtain ⟨hname, -⟩ := Step.eq_entry_of_ofEntry h
  have hparameters := Step.parameters_of_ofEntry h
  rcases execute_error_cases hfails with
    ⟨cause, rfl, herror⟩ | ⟨rfl, hnone⟩ | ⟨parameters, resolved, failure, rfl, hok, hresolved, hfails⟩
  · rw [← errorOf?_eq_some_iff, Resolution.errorOf?_parameters _ _ "parameters", hparameters]
      at herror
    obtain ⟨found, hfound, hcause⟩ := List.exists_of_findSome?_eq_some herror
    exact .placeholder hfound (errorOf?_eq_some_iff.mp hcause)
  · rw [hname] at hnone ⊢
    exact .name hnone (Step.givesRequires_of_ofEntry h)
  · rw [hname] at hresolved
    rw [hparameters] at hok
    exact .operation hresolved (Resolution.valueFields_eq_ok_iff.mp hok).1 hfails

/-- **Reserved parameters stay out of a run of accepted entries.** The operations that are called are
handed the parameters of the entries, one after another, under exactly the keys that are not reserved.
Outputs are recorded under identifiers as they are written, placeholders and all, and a run fails for
no placeholder but one in the other parameters of the entry that fails. What only a placeholder in a
reserved parameter would read from the environment or the store makes no difference at all. Other
packages make none either: the same result, the same calls with the same parameters, the same attempts
to print and the same log, but for the packages in the error for an unknown step. -/
theorem runSteps_keeps_reserved_apart (sink : Sink κ) (entries : List Json)
    (earlier : Option Outputs) (world : ω) (state : κ)
    (h : ∀ entry ∈ entries, ∃ step, Step.ofEntry entry = .ok step) :
    let run := pipeline.runSteps sink entries earlier world state
    ((Event.calls run.events).map fun call => Fields.keys call.2) <+:
        (entries.map fun entry =>
          (Fields.keys (Step.entryFields entry)).filter (· ∉ Step.reserved)) ∧
      (∃ left : List Json,
        let reached := (earlier.getD .empty).recordAll ((entries.map Step.entryId).zip left)
        (left.length = entries.length ∧ run.result = .ok reached) ∨
          ∃ entry e, entries[left.length]? = some entry ∧ pipeline.FailsFor entry reached e ∧
            run.result = .error (.step (Step.entryName entry) left.length e)) ∧
      (∀ environment store,
        (∀ entry ∈ entries,
          ∀ found ∈ Placeholder.collect "parameters"
              (.object (Step.unreserved (Step.entryFields entry))),
            ∀ target, Reference.parse? found.expression.toList = some target → ∀ outputs,
              target.ReadAlike (pipeline.sources outputs) ⟨outputs, environment, store⟩) →
        (Pipeline.mk pipeline.registry environment store).runSteps sink entries earlier world state =
          run) ∧
      ∀ others, List.Forall₂ Step.SameButRequires entries others →
        (∀ other ∈ others, ∃ step, Step.ofEntry other = .ok step) →
        let changed := pipeline.runSteps sink others earlier world state
        run.SameButRequires changed ∧
          Event.calls run.events = Event.calls changed.events ∧
          Event.prints run.events = Event.prints changed.events := by
  obtain ⟨steps, hsteps⟩ := exists_describe_iff.mpr h
  rw [pipeline.runSteps_of_describe sink hsteps]
  refine ⟨?_, ?_, ?_, ?_⟩
  · have hkeys : (steps.map fun step => Fields.keys step.parameters) = entries.map fun entry =>
        (Fields.keys (Step.entryFields entry)).filter (· ∉ Step.reserved) :=
      map_eq_of_describe (fun hentry => by
        rw [Step.parameters_of_ofEntry hentry, Step.keys_unreserved]) hsteps
    rw [pipeline.runFrom_calls, ← hkeys]
    exact pipeline.keys_calls_visits _ steps world
  · have hids : steps.map Step.id = entries.map Step.entryId :=
      map_eq_of_describe (fun hentry => (Step.eq_entry_of_ofEntry hentry).2) hsteps
    obtain ⟨left, hleft⟩ :=
      pipeline.runFrom_recordAll sink 0 (earlier.getD .empty) steps world state
    rw [hids] at hleft
    refine ⟨left, ?_⟩
    rcases hleft with ⟨hlength, hok⟩ | ⟨step, before, e, hget, hfails, herror⟩
    · exact .inl ⟨hlength.trans hsteps.length_eq.symm, hok⟩
    · obtain ⟨entry, hentry, hstep⟩ := getElem?_of_describe hsteps hget
      refine .inr ⟨entry, e, hentry, pipeline.failsFor_of_execute hstep hfails, ?_⟩
      rw [herror, Nat.zero_add, (Step.eq_entry_of_ofEntry hstep).1]
  · intro environment store halike
    rw [Pipeline.runSteps_of_describe _ sink hsteps]
    refine (runFrom_congr (fun step hstep outputs world => ?_) sink 0 _ world state).symm
    obtain ⟨entry, hentry, hdescribes⟩ := (mem_of_describe hsteps).2 step hstep
    refine pipeline.execute_of_readAlike (fun found hfound target hparse => ?_) world
    rw [Step.parameters_of_ofEntry hdescribes] at hfound
    exact halike entry hentry found hfound target hparse outputs
  · intro others hothers haccepted
    obtain ⟨more, hmore⟩ := exists_describe_iff.mpr haccepted
    have hsame := pipeline.runFrom_sameButRequires sink (forall₂_of_describe hothers hsteps hmore) 0
      (earlier.getD .empty) world state
    rw [pipeline.runSteps_of_describe sink hmore]
    exact ⟨hsame, hsame.calls_eq, hsame.prints_eq⟩

/-- Entries with placeholders in what is reserved, the last of which names no operation. -/
def reservedEntries (packages : Json) : List Json :=
  [.object [("hello", .object [("id", .string "\x7b\x7b nowhere \x7d\x7d"),
      ("requires", .string "\x7b\x7b $HOME"), ("x", .bool true)])],
    .object [("lost", .object [("requires", packages)])]]

/-- Neither placeholder keeps its step from running, and the last error shows its packages. -/
theorem runSteps_reservedEntries :
    let run := sample.runSteps (Console.sink false) (reservedEntries (.string "a")) none 0 ""
    let changed := sample.runSteps (Console.sink false) (reservedEntries .null) none 0 ""
    (∀ entry ∈ reservedEntries (.string "a"), ∃ step, Step.ofEntry entry = .ok step) ∧
      (Event.calls run.events).map (fun call => Fields.keys call.2) = [["x"]] ∧
      run.result = .error (.step "lost" 1 (.unknownStep "lost" ["a"])) ∧
      changed.result = .error (.step "lost" 1 (.unknownStep "lost" [])) ∧
      Event.prints run.events = Event.prints changed.events := by
  have haccepted : ∀ entry ∈ reservedEntries (.string "a"), ∃ step, Step.ofEntry entry = .ok step :=
    List.forall_mem_cons.mpr ⟨⟨_, rfl⟩, List.forall_mem_singleton.mpr ⟨_, rfl⟩⟩
  have hchanged : ∀ entry ∈ reservedEntries .null, ∃ step, Step.ofEntry entry = .ok step :=
    List.forall_mem_cons.mpr ⟨⟨_, rfl⟩, List.forall_mem_singleton.mpr ⟨_, rfl⟩⟩
  have hsame : List.Forall₂ Step.SameButRequires (reservedEntries (.string "a"))
      (reservedEntries .null) := .cons ⟨rfl, rfl⟩ (.cons ⟨rfl, rfl⟩ .nil)
  obtain ⟨-, -, -, hothers⟩ :=
    sample.runSteps_keeps_reserved_apart (Console.sink false) _ none 0 "" haccepted
  exact ⟨haccepted, rfl, rfl, rfl, (hothers _ hsame hchanged).2.2⟩

end Pipeline

end Runbook
