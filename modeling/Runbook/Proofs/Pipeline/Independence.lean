import Runbook.Proofs.Outputs.Exchange
import Runbook.Proofs.Pipeline.Validation
import Runbook.Proofs.Pipeline.Visits
import Runbook.Proofs.Resolution.Agreement
import Runbook.Review

/-! # Steps that do not depend on each other

Two steps may be run in either order if neither refers to what the other leaves, and if what they
leave has nothing in common.

* **`Step.outputHeads`** — what the references of a step to outputs begin with.
* **`Step.Ignores`**, **`Step.Independent`** — a step whose references do not name what another one
  records, and two steps that have nothing to do with each other.
* **`Pipeline.execute_record`** — such a step is executed as if that had not been recorded.
* **`Registry.IgnoresWorld`** — a name whose operation has the same outcome in every world.
* **`Pipeline.outputsLeft`** — the outputs that the steps of a run leave.
* **`Pipeline.runSteps_swap`** — independent steps come to the same in either order. -/

namespace Runbook

/-! ## What a step refers to -/

/-- What a reference to an output begins with: an identifier or a key. -/
def Reference.outputHead? : Reference → Option String
  | .output path => path.head?
  | _ => none

/-- **What the references of a step to outputs begin with**, as they are collected from its
parameters. -/
def Step.outputHeads (step : Step) : List String :=
  (Review.placeholders step).filterMap fun found =>
    (Reference.parse? found.expression.toList).bind Reference.outputHead?

/-- **A step whose references do not name what another one records**: no reference to an output in
its parameters begins with the identifier of the other step, or with a key of its output. -/
def Step.Ignores (step : Step) (id : Option String) (output : Json) : Prop :=
  ∀ head ∈ step.outputHeads, id ≠ some head ∧ head ∉ output.keys

instance (step : Step) (id : Option String) (output : Json) : Decidable (step.Ignores id output) :=
  inferInstanceAs (Decidable (∀ head ∈ step.outputHeads, id ≠ some head ∧ head ∉ output.keys))

/-- **Two steps that do not depend on each other** and leave the outputs `x` and `y`: they have
different identifiers, their outputs have no key in common, and neither refers to what the other
records. -/
structure Step.Independent (first second : Step) (x y : Json) : Prop where
  id_ne : ∀ id ∈ first.id, second.id ≠ some id
  keys_disjoint : ∀ key ∈ x.keys, key ∉ y.keys
  first_ignores : first.Ignores second.id y
  second_ignores : second.Ignores first.id x

instance (first second : Step) (x y : Json) : Decidable (first.Independent second x y) :=
  have : Decidable (∀ id ∈ first.id, second.id ≠ some id) := Option.decidableForallMem first.id
  decidable_of_iff ((∀ id ∈ first.id, second.id ≠ some id) ∧ (∀ key ∈ x.keys, key ∉ y.keys) ∧
      first.Ignores second.id y ∧ second.Ignores first.id x)
    ⟨fun h => ⟨h.1, h.2.1, h.2.2.1, h.2.2.2⟩, fun h => ⟨h.1, h.2, h.3, h.4⟩⟩

/-- A reference is answered as before when something is recorded that it does not name. -/
theorem Reference.readAlike_record {target : Reference} {id : Option String} {output : Json}
    (h : ∀ path, target = .output path → ∀ head ∈ path.head?, id ≠ some head ∧ head ∉ output.keys)
    (outputs : Outputs) (environment : Environment) (store : Store) :
    target.ReadAlike ⟨outputs.record id output, environment, store⟩
      ⟨outputs, environment, store⟩ := by
  match target, h with
  | .block type name path, _ => exact rfl
  | .variable name path, _ => exact rfl
  | .environment name, _ => exact rfl
  | .output [], _ => exact rfl
  | .output (head :: rest), h =>
    obtain ⟨hid, hkey⟩ := h (head :: rest) rfl head rfl
    exact Outputs.lookup_record hid hkey outputs rest

namespace Pipeline

variable {ω κ : Type} (pipeline : Pipeline ω)

/-- **A step is executed as if nothing had been recorded** that its references do not name. -/
theorem execute_record {step : Step} {id : Option String} {output : Json}
    (h : step.Ignores id output) (outputs : Outputs) (world : ω) :
    pipeline.execute step (outputs.record id output) world =
      pipeline.execute step outputs world := by
  have halike : ∀ found ∈ Review.placeholders step, ∀ target,
      Reference.parse? found.expression.toList = some target →
        target.ReadAlike (pipeline.sources (outputs.record id output))
          (pipeline.sources outputs) := by
    intro found hfound target htarget
    refine Reference.readAlike_record (fun path hpath head hhead => ?_) outputs _ _
    have hbegins : (Reference.parse? found.expression.toList).bind Reference.outputHead? =
        some head := by
      rw [htarget, hpath]
      exact hhead
    exact h head (List.mem_filterMap.mpr ⟨found, hfound, hbegins⟩)
  rw [execute, execute, Resolution.parameters_congr halike]

end Pipeline

/-! ## What an operation depends on -/

/-- An operation whose outcome depends on what it is handed, and not on the world. -/
def Operation.IgnoresWorld {ω : Type} (operation : Operation ω) : Prop :=
  ∀ parameters collected world other,
    (operation.run parameters collected world).outcome =
      (operation.run parameters collected other).outcome

/-- **A name whose operation has the same outcome in every world.** -/
def Registry.IgnoresWorld {ω : Type} (registry : Registry ω) (name : String) : Prop :=
  ∀ resolved, registry.resolve? name = some resolved → resolved.operation.IgnoresWorld

namespace Pipeline

variable {ω κ : Type} (pipeline : Pipeline ω)

/-- A step has the same output in every world if its operation has. -/
theorem output_execute_eq {step : Step} (h : pipeline.registry.IgnoresWorld step.name)
    (outputs : Outputs) (world other : ω) :
    (pipeline.execute step outputs world).result.map Invocation.output =
      (pipeline.execute step outputs other).result.map Invocation.output := by
  rw [execute, execute]
  cases Resolution.parameters (pipeline.sources outputs) step.parameters with
  | error cause => rfl
  | ok parameters =>
    dsimp only
    cases hresolve : pipeline.registry.resolve? step.name with
    | none =>
      rw [Registry.invoke_of_resolve?_eq_none hresolve,
        Registry.invoke_of_resolve?_eq_none hresolve]
    | some resolved =>
      have houtcome := h resolved hresolve parameters resolved.notices world other
      rw [Registry.invoke_of_resolve? hresolve, Registry.invoke_of_resolve? hresolve,
        Report.output_attempt, Report.output_attempt, houtcome]

/-- What a step does not refer to shows in its output as little as the world does. -/
theorem output_execute_record {step : Step} {id : Option String} {output : Json}
    (hignores : step.Ignores id output) (hworld : pipeline.registry.IgnoresWorld step.name)
    (outputs : Outputs) (world other : ω) :
    (pipeline.execute step (outputs.record id output) world).result.map Invocation.output =
      (pipeline.execute step outputs other).result.map Invocation.output := by
  rw [pipeline.execute_record hignores]
  exact pipeline.output_execute_eq hworld outputs world other

/-! ## The outputs of a run -/

/-- **The outputs that the steps of a run leave**, up to the first step that fails. -/
def outputsLeft (outputs : Outputs) (steps : List Step) (world : ω) : List Json :=
  (pipeline.visits outputs steps world).filterMap fun visit => visit.left.map Prod.fst

section

variable {outputs : Outputs} {step : Step} {world : ω}

/-- Behind a step that fails no output is left. -/
theorem outputsLeft_of_error {e : StepError}
    (h : (pipeline.execute step outputs world).result = .error e) (rest : List Step) :
    pipeline.outputsLeft outputs (step :: rest) world = [] := by
  have hleft := pipeline.left_visit step outputs world
  rw [h] at hleft
  rw [outputsLeft, pipeline.visits_of_error outputs rest world h]
  simp [hleft]

/-- A step that succeeds leaves its output, in front of those of the steps behind it. -/
theorem outputsLeft_of_ok {invocation : Invocation}
    (h : (pipeline.execute step outputs world).result = .ok invocation) (rest : List Step) :
    pipeline.outputsLeft outputs (step :: rest) world =
      invocation.output :: pipeline.outputsLeft (outputs.record step.id invocation.output) rest
        (pipeline.execute step outputs world).world := by
  have hleft := pipeline.left_visit step outputs world
  rw [h] at hleft
  rw [outputsLeft, pipeline.visits_of_ok outputs rest world h]
  simp [hleft, outputsLeft]

/-- A run goes on with the output of a step that has one, in some world and with some sink. -/
theorem exists_result_runFrom_eq {output : Json}
    (h : (pipeline.execute step outputs world).result.map Invocation.output = .ok output)
    (sink : Sink κ) (index : Nat) (rest : List Step) (state : κ) :
    ∃ after state', (pipeline.runFrom sink index outputs (step :: rest) world state).result =
      (pipeline.runFrom sink (index + 1) (outputs.record step.id output) rest after
        state').result := by
  cases hresult : (pipeline.execute step outputs world).result with
  | error e =>
    rw [hresult] at h
    cases h
  | ok invocation =>
    rw [hresult] at h
    have houtput : invocation.output = output := Except.ok.inj h
    rw [pipeline.runFrom_of_ok sink index outputs rest world state hresult, houtput]
    exact ⟨_, _, rfl⟩

end

/-- Two steps that both leave an output have been executed one on what the other has recorded. -/
theorem outputs_of_outputsLeft_pair {first second : Step} {outputs : Outputs} {world : ω}
    {x y : Json} (h : pipeline.outputsLeft outputs [first, second] world = [x, y]) :
    (pipeline.execute first outputs world).result.map Invocation.output = .ok x ∧
      ∃ after, (pipeline.execute second (outputs.record first.id x) after).result.map
        Invocation.output = .ok y := by
  cases hfirst : (pipeline.execute first outputs world).result with
  | error e =>
    rw [pipeline.outputsLeft_of_error hfirst] at h
    cases h
  | ok left =>
    rw [pipeline.outputsLeft_of_ok hfirst] at h
    cases hsecond : (pipeline.execute second (outputs.record first.id left.output)
        (pipeline.execute first outputs world).world).result with
    | error e =>
      rw [pipeline.outputsLeft_of_error hsecond] at h
      cases h
    | ok right =>
      rw [pipeline.outputsLeft_of_ok hsecond] at h
      obtain ⟨rfl, htail⟩ := List.cons.inj h
      obtain ⟨rfl, -⟩ := List.cons.inj htail
      exact ⟨rfl, (pipeline.execute first outputs world).world, by rw [hsecond]; rfl⟩

/-- A run of two steps whose outputs are known comes to the record of both. -/
theorem result_runFrom_pair {first second : Step} {outputs : Outputs} {world : ω} {x y : Json}
    (hfirst : (pipeline.execute first outputs world).result.map Invocation.output = .ok x)
    (hsecond : ∀ after, (pipeline.execute second (outputs.record first.id x) after).result.map
      Invocation.output = .ok y) (sink : Sink κ) (state : κ) :
    (pipeline.runFrom sink 0 outputs [first, second] world state).result =
      .ok ((outputs.record first.id x).record second.id y) := by
  obtain ⟨after, state', hfrom⟩ := pipeline.exists_result_runFrom_eq hfirst sink 0 [second] state
  obtain ⟨last, state'', hlast⟩ :=
    pipeline.exists_result_runFrom_eq (hsecond after) sink 1 [] state'
  rw [hfrom, hlast, runFrom]

/-- **Independent steps may change places.** Suppose that a run of two entries succeeds, that their
operations have the same outcomes in every world, and that the steps, with the outputs that they
leave in this run, do not depend on each other. Then the run of the entries in the other order
succeeds as well. Its outputs have the same root view, the same output under every identifier, the
same mapping to hand over and the same answer to every path; only the identifiers may be listed in
another order. -/
theorem runSteps_swap (sink : Sink κ) {a b : Json} {first second : Step}
    (ha : Step.ofEntry a = .ok first) (hb : Step.ofEntry b = .ok second)
    (haworld : pipeline.registry.IgnoresWorld first.name)
    (hbworld : pipeline.registry.IgnoresWorld second.name)
    (outputs : Outputs) (world : ω) (state : κ) {final : Outputs}
    (hrun : (pipeline.runSteps sink [a, b] (some outputs) world state).result = .ok final)
    {x y : Json} (hleft : pipeline.outputsLeft outputs [first, second] world = [x, y])
    (hindependent : first.Independent second x y) :
    ∃ swapped, (pipeline.runSteps sink [b, a] (some outputs) world state).result = .ok swapped ∧
      swapped.root = final.root ∧
      (∀ id, swapped.stepOutput? id = final.stepOutput? id) ∧
      swapped.steps.keys.Perm final.steps.keys ∧
      swapped.merged = final.merged ∧
      ∀ path, swapped.lookup path = final.lookup path := by
  have hab : Describe [a, b] [first, second] := .cons ha (.cons hb .nil)
  have hba : Describe [b, a] [second, first] := .cons hb (.cons ha .nil)
  obtain ⟨hids, hkeys, hfirst, hsecond⟩ := hindependent
  obtain ⟨hx, after, hy⟩ := pipeline.outputs_of_outputsLeft_pair hleft
  -- each step has the output of the first run, with and without the record of the other
  have hx' : ∀ other, (pipeline.execute first (outputs.record second.id y) other).result.map
      Invocation.output = .ok x := by
    intro other
    rw [pipeline.output_execute_record hfirst haworld outputs other world, hx]
  have hyalone : ∀ other, (pipeline.execute second outputs other).result.map
      Invocation.output = .ok y := by
    intro other
    rw [← pipeline.output_execute_record hsecond hbworld outputs after other, hy]
  have hy' : ∀ other, (pipeline.execute second (outputs.record first.id x) other).result.map
      Invocation.output = .ok y := by
    intro other
    rw [pipeline.output_execute_record hsecond hbworld outputs other other, hyalone]
  have hfinal : final = (outputs.record first.id x).record second.id y := by
    rw [pipeline.runSteps_of_describe sink hab, Option.getD_some,
      pipeline.result_runFrom_pair hx hy' sink state] at hrun
    exact (Except.ok.inj hrun).symm
  have hswapped : (pipeline.runSteps sink [b, a] (some outputs) world state).result =
      .ok ((outputs.record second.id y).record first.id x) := by
    rw [pipeline.runSteps_of_describe sink hba, Option.getD_some,
      pipeline.result_runFrom_pair (hyalone world) hx' sink state]
  have hsame : ((outputs.record second.id y).record first.id x).SameUpToOrder final := by
    rw [hfinal]
    exact Outputs.record_comm (fun id hid hother => hids id hother hid)
      (fun key hy hx => hkeys key hx hy) outputs
  exact ⟨_, hswapped, hsame.root, hsame.stepOutput, hsame.steps.map Prod.fst, hsame.merged_eq,
    hsame.lookup_eq⟩

/-- What is there before the entries of the example. -/
def zoned : Outputs := .seeded [("zone", .object [("name", .string "north")])]

/-- An entry that refers to what was there before. -/
def zoneEntry : Json :=
  .object [("greet", .object [("id", .string "a"), ("x", .string "\x7b\x7b zone.name \x7d\x7d")])]

/-- An entry that refers to nothing and has an old name. -/
def plainEntry : Json := .object [("hello", .object [("id", .string "b"), ("y", .bool true)])]

/-- The two entries may change places; only their identifiers are listed in another order then. -/
theorem runSteps_swap_zoneEntry :
    ∃ final swapped,
      (sample.runSteps (Console.sink false) [zoneEntry, plainEntry] (some zoned) 0 "").result =
        .ok final ∧
      (sample.runSteps (Console.sink false) [plainEntry, zoneEntry] (some zoned) 0 "").result =
        .ok swapped ∧
      swapped.merged = final.merged ∧ final.steps.keys = ["a", "b"] ∧
      swapped.steps.keys = ["b", "a"] := by
  have hgreet : sample.registry.IgnoresWorld "greet" := by
    intro resolved hresolved
    cases hresolved
    exact fun parameters collected world other => rfl
  have hhello : sample.registry.IgnoresWorld "hello" := by
    intro resolved hresolved
    cases hresolved
    exact fun parameters collected world other => rfl
  let first : Step := ⟨"greet", some "a", [], [("x", .string "\x7b\x7b zone.name \x7d\x7d")]⟩
  let second : Step := ⟨"hello", some "b", [], [("y", .bool true)]⟩
  have ha : Step.ofEntry zoneEntry = .ok first := rfl
  have hb : Step.ofEntry plainEntry = .ok second := rfl
  have hindependent : first.Independent second (.object [("x", .string "north")])
      (.object [("y", .bool true)]) := by
    decide +kernel
  obtain ⟨swapped, hswapped, -, -, -, hmerged, -⟩ := sample.runSteps_swap (Console.sink false) ha hb
    hgreet hhello zoned 0 "" rfl rfl hindependent
  refine ⟨_, swapped, rfl, hswapped, hmerged, rfl, ?_⟩
  cases hswapped
  rfl

end Pipeline

end Runbook
