import Runbook.Pipeline.Event
import Runbook.Registry

/-! # Invocation of operations

* **`Registry.invoke`** — finds the operation that a name means and runs it. An old name raises a
  deprecation before anything else; the diagnostics of an operation that fails go to the log. -/

namespace Runbook

/-- What a step leaves when its operation succeeds. -/
structure Invocation where
  /-- The output. -/
  output : Json
  /-- The diagnostics, the deprecation of an old name first. -/
  diagnostics : List Diagnostic
  deriving DecidableEq

/-- What has happened when a step has been tried. -/
structure Attempt (ω : Type) where
  /-- What the step leaves, or why it failed. -/
  result : Except StepError Invocation
  /-- The world afterwards. -/
  world : ω
  /-- What happened. -/
  events : List Event

/-- The notice that a name is old. -/
def deprecatedName (oldName name : String) : Diagnostic :=
  .deprecation ("'" ++ oldName ++ "' has been deprecated and will be removed in a future release. " ++
    "Use '" ++ name ++ "' instead.")

/-- The diagnostics that are raised before an operation runs. -/
def Resolved.notices {ω : Type} (resolved : Resolved ω) : List Diagnostic :=
  match resolved.oldName with
  | some oldName => [deprecatedName oldName resolved.name]
  | none => []

/-- Finds the operation that a name means and runs it. -/
def Registry.invoke {ω : Type} (registry : Registry ω) (name : String) (requires : List String)
    (parameters : Fields) (world : ω) : Attempt ω :=
  match registry.resolve? name with
  | none => ⟨.error (.unknownStep name requires), world, []⟩
  | some resolved =>
    let report := resolved.operation.run parameters resolved.notices world
    let call := Event.call resolved.name parameters
    match report.outcome with
    | .ok output => ⟨.ok ⟨output, report.diagnostics⟩, report.world, [call]⟩
    | .error failure =>
      ⟨.error (.operation failure), report.world,
        call :: report.diagnostics.map fun diagnostic =>
          .log (.raisedByFailedStep resolved.name diagnostic.message)⟩

end Runbook
