import Runbook.Pipeline.Invoke
import Runbook.Steps.Builtin

/-! # Where diagnostics come from

* **`Registry.deprecations`** — the notice that a name is old, for a name among the aliases.
* **`Report.attempt`** — where the diagnostics of an operation go: to the caller if it succeeds, and
  to the log if it fails (`Registry.invoke_of_resolve?`).
* **`Operation.OnlyRaises`** — an operation that adds to the diagnostics it is handed and takes none
  of them away. One that runs in place could.
* **`Operation.diagnostics_run`** — what such an operation leaves is what it was handed, followed by
  what it raised.
* **`Behaviour.Appends`** — a behaviour that only adds diagnostics and does not depend on those
  before.
* **`Registry.builtin_appends`** — the built-in operations are of this kind. -/

namespace Runbook

variable {ω : Type}

/-! ## Notices -/

namespace Registry

/-- The notice that a name is old: one for a name among the aliases, none for any other. -/
def deprecations (registry : Registry ω) (name : String) : List Diagnostic :=
  match registry.aliases.get? name with
  | some target => [deprecatedName name target]
  | none => []

/-- An operation that is found raises the notice of the name by which it is found. -/
theorem notices_of_resolve? {registry : Registry ω} {name : String} {resolved : Resolved ω}
    (h : registry.resolve? name = some resolved) :
    resolved.notices = registry.deprecations name := by
  rw [resolve?] at h
  rw [deprecations]
  cases halias : registry.aliases.get? name with
  | none =>
    rw [halias] at h
    obtain ⟨operation, -, rfl⟩ := Option.map_eq_some_iff.mp h
    rfl
  | some target =>
    rw [halias] at h
    obtain ⟨operation, -, rfl⟩ := Option.map_eq_some_iff.mp h
    rfl

/-- An operation that is found is registered under the name that is found with it. -/
theorem get?_of_resolve? {registry : Registry ω} {name : String} {resolved : Resolved ω}
    (h : registry.resolve? name = some resolved) :
    registry.operations.get? resolved.name = some resolved.operation := by
  rw [resolve?] at h
  split at h
  · obtain ⟨operation, hoperation, rfl⟩ := Option.map_eq_some_iff.mp h
    exact hoperation
  · obtain ⟨operation, hoperation, rfl⟩ := Option.map_eq_some_iff.mp h
    exact hoperation

end Registry

/-! ## Invocations -/

namespace Report

/-- What has happened when the operation of a name has come to a report: the diagnostics go to the
caller if it succeeds, and to the log if it fails. -/
def attempt (report : Report ω) (name : String) (parameters : Fields) : Attempt ω :=
  match report.outcome with
  | .ok output => ⟨.ok ⟨output, report.diagnostics⟩, report.world, [.call name parameters]⟩
  | .error failure =>
    ⟨.error (.operation failure), report.world,
      .call name parameters :: report.diagnostics.map fun diagnostic =>
        .log (.raisedByFailedStep name diagnostic.message)⟩

/-- The output of an attempt is the outcome of the operation. -/
theorem output_attempt (report : Report ω) (name : String) (parameters : Fields) :
    (report.attempt name parameters).result.map Invocation.output =
      report.outcome.mapError .operation := by
  rw [attempt]
  cases report.outcome <;> rfl

end Report

namespace Registry

/-- **An invocation comes to the report of the operation that is found.** -/
theorem invoke_of_resolve? {registry : Registry ω} {name : String} {resolved : Resolved ω}
    (h : registry.resolve? name = some resolved) (requires : List String) (parameters : Fields)
    (world : ω) :
    registry.invoke name requires parameters world =
      (resolved.operation.run parameters resolved.notices world).attempt resolved.name
        parameters := by
  cases houtcome : (resolved.operation.run parameters resolved.notices world).outcome with
  | error failure => simp only [invoke, h, Report.attempt, houtcome]
  | ok output => simp only [invoke, h, Report.attempt, houtcome]

theorem invoke_of_resolve?_eq_none {registry : Registry ω} {name : String}
    (h : registry.resolve? name = none) (requires : List String) (parameters : Fields) (world : ω) :
    registry.invoke name requires parameters world =
      ⟨.error (.unknownStep name requires), world, []⟩ := by
  rw [invoke, h]

end Registry

/-! ## Operations that only raise -/

namespace Operation

/-- **An operation that adds to the diagnostics it is handed and takes none of them away.** One that
runs apart is handed none. -/
def OnlyRaises : Operation ω → Prop
  | .blocking _ => True
  | .suspending behaviour =>
    ∀ parameters collected world, collected <+: (behaviour parameters collected world).diagnostics

/-- The diagnostics that an operation raises of its own when it runs after `collected` ones. -/
def raised (operation : Operation ω) (parameters : Fields) (collected : List Diagnostic)
    (world : ω) : List Diagnostic :=
  match operation with
  | .blocking behaviour => (behaviour parameters [] world).diagnostics
  | .suspending behaviour =>
    (behaviour parameters collected world).diagnostics.drop collected.length

/-- **What an operation leaves is what it was handed, followed by what it raised.** -/
theorem diagnostics_run {operation : Operation ω} (h : operation.OnlyRaises) (parameters : Fields)
    (collected : List Diagnostic) (world : ω) :
    (operation.run parameters collected world).diagnostics =
      collected ++ operation.raised parameters collected world := by
  cases operation with
  | blocking behaviour => rfl
  | suspending behaviour =>
    exact (List.prefix_iff_eq_append.mp (h parameters collected world)).symm

end Operation

/-! ## Behaviours that only append -/

/-- A report whose diagnostics stand behind others that were there before. -/
def Report.behind (collected : List Diagnostic) (report : Report ω) : Report ω :=
  { report with diagnostics := collected ++ report.diagnostics }

/-- **A behaviour that only appends**: it leaves the diagnostics that it is handed in front of its
own, and all else that it does is the same whatever they are. -/
def Behaviour.Appends (behaviour : Behaviour ω) : Prop :=
  ∀ parameters collected world,
    behaviour parameters collected world = (behaviour parameters [] world).behind collected

namespace Operation

/-- What an operation does, in whichever way it is run. -/
def behaviour : Operation ω → Behaviour ω
  | .blocking behaviour | .suspending behaviour => behaviour

/-- **The way in which it is run does not show** in the report of an operation that only appends. -/
theorem run_of_appends {operation : Operation ω} (h : Behaviour.Appends operation.behaviour)
    (parameters : Fields) (collected : List Diagnostic) (world : ω) :
    operation.run parameters collected world =
      (operation.behaviour parameters [] world).behind collected := by
  cases operation with
  | blocking behaviour => rfl
  | suspending behaviour => exact h parameters collected world

/-- An operation that only appends takes no diagnostics away. -/
theorem onlyRaises_of_appends {operation : Operation ω}
    (h : Behaviour.Appends operation.behaviour) : operation.OnlyRaises := by
  cases operation with
  | blocking behaviour => exact trivial
  | suspending behaviour =>
    intro parameters collected world
    have hreport : behaviour parameters collected world =
        (behaviour parameters [] world).behind collected := h parameters collected world
    rw [hreport]
    exact List.prefix_append collected _

end Operation

/-! ## Built-in operations -/

theorem ScriptStep.appends (host : Host ω) (environment : Environment) :
    Behaviour.Appends (behaviour host environment) := by
  intro parameters collected world
  simp only [behaviour]
  split <;> simp [Report.behind]

theorem RequirementsStep.appends (host : Host ω) (environment : Environment) :
    Behaviour.Appends (behaviour host environment) := by
  intro parameters collected world
  simp only [behaviour]
  split <;> simp [Report.behind]

/-- A clone raises the notices of its parameters, whether it can be planned or not. -/
theorem CloneStep.appends [DomainNames] (step : CloneStep) (host : Host ω) :
    Behaviour.Appends (step.behaviour host) := by
  intro parameters collected world
  simp only [behaviour]
  split <;> simp [Report.behind]

theorem WorkingDirectoryStep.appends (host : Host ω) :
    Behaviour.Appends (behaviour host) := by
  intro parameters collected world
  simp only [behaviour]
  split
  · simp [Report.behind]
  · split <;> simp [Report.behind]

namespace Registry

/-- **The built-in operations only append diagnostics.** -/
theorem builtin_appends [DomainNames] (host : Host ω) (environment : Environment)
    {name : String} {operation : Operation ω}
    (h : (builtin host environment).operations.get? name = some operation) :
    Behaviour.Appends operation.behaviour := by
  simp only [builtin, oldNames, List.foldl_cons, List.foldl_nil, registerAlias, register,
    Table.get?_insert] at h
  split at h
  · rw [← Option.some.inj h]
    exact WorkingDirectoryStep.appends host
  split at h
  · rw [← Option.some.inj h]
    exact RequirementsStep.appends host environment
  split at h
  · rw [← Option.some.inj h]
    exact CloneStep.appends _ host
  split at h
  · rw [← Option.some.inj h]
    exact ScriptStep.appends host environment
  · cases h

/-- The built-in operations take no diagnostics away. -/
theorem builtin_onlyRaises [DomainNames] (host : Host ω) (environment : Environment)
    {name : String} {resolved : Resolved ω}
    (h : (builtin host environment).resolve? name = some resolved) :
    resolved.operation.OnlyRaises :=
  Operation.onlyRaises_of_appends (builtin_appends host environment (get?_of_resolve? h))

end Registry

end Runbook
