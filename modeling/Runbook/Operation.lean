import Runbook.Diagnostic

/-! # Operations

What a step does when it runs. Operations act on a world of any type `ω`; they are handed the
diagnostics that have been collected so far and hand them back, usually with more behind them.

* **`Failure`** — why an operation failed, with the chain of causes.
* **`Behaviour`** — what an operation does with its parameters, the diagnostics and the world.
* **`Operation`** — a behaviour and the way in which it is run. -/

namespace Runbook

/-- Why an operation failed. -/
structure Failure where
  /-- The message. -/
  message : String
  /-- The messages of what caused it, each the cause of the one before. -/
  causes : List String
  deriving DecidableEq, Repr

namespace Failure

/-- A failure without a cause. -/
def ofMessage (message : String) : Failure := ⟨message, []⟩

/-- The failure that another one causes. -/
def within (failure : Failure) (message : String) : Failure :=
  ⟨message, failure.message :: failure.causes⟩

end Failure

/-- What is left when an operation has run. -/
structure Report (ω : Type) where
  /-- The output, or why there is none. -/
  outcome : Except Failure Json
  /-- The diagnostics that were handed over, as the operation leaves them. -/
  diagnostics : List Diagnostic
  /-- The world as the operation leaves it. -/
  world : ω

/-- What an operation does. -/
abbrev Behaviour (ω : Type) := Fields → List Diagnostic → ω → Report ω

/-- A behaviour and the way in which it is run. -/
inductive Operation (ω : Type) where
  /-- Runs apart, on an empty list of diagnostics that is added to the others afterwards. -/
  | blocking (run : Behaviour ω)
  /-- Runs in place, on the diagnostics that have been collected. -/
  | suspending (run : Behaviour ω)

namespace Operation

variable {ω : Type}

/-- The word for the way in which an operation is run. -/
def kind : Operation ω → String
  | .blocking _ => "blocking"
  | .suspending _ => "suspending"

/-- The text that shows an operation. -/
def debugText (operation : Operation ω) : String := "StepOperation(\"" ++ operation.kind ++ "\")"

/-- Runs an operation after `collected` diagnostics. One that runs apart and breaks off, instead of
coming to an end, stands as one that fails without diagnostics. It differs from such a one in the log
alone, where the diagnostics collected before it do not appear. -/
def run (operation : Operation ω) (parameters : Fields) (collected : List Diagnostic) (world : ω) :
    Report ω :=
  match operation with
  | .blocking behaviour =>
    let report := behaviour parameters [] world
    { report with diagnostics := collected ++ report.diagnostics }
  | .suspending behaviour => behaviour parameters collected world

end Operation

end Runbook
