import Runbook.Operation
import Runbook.Resolution
import Runbook.Step

/-! # Failures of steps and pipelines

* **`StepError`** — why a step has no output.
* **`PipelineError`** — why a pipeline stopped, and at which step.
* **`PipelineError.chain`** — the messages from the outermost to the innermost. -/

namespace Runbook

/-- Why a step has no output. -/
inductive StepError where
  /-- Its entry describes no step. -/
  | format (cause : FormatError)
  /-- A placeholder in its parameters has no value. -/
  | resolution (cause : ResolutionError)
  /-- Its name means no operation; `requires` names the packages that should provide it. -/
  | unknownStep (name : String) (requires : List String)
  /-- Its operation failed. -/
  | operation (cause : Failure)
  deriving DecidableEq, Repr

namespace StepError

/-- The wording of an error. -/
def message : StepError → String
  | .format cause => cause.message
  | .resolution cause => cause.message
  | .unknownStep name [] => "step '" ++ name ++ "' is not registered"
  | .unknownStep name requires =>
    "step '" ++ name ++ "' is not registered; it is expected to be provided by "
      ++ String.intercalate ", " requires
  | .operation cause => cause.message

/-- The messages of what caused an error. -/
def causes : StepError → List String
  | .resolution (.store _ cause) => [cause.message]
  | .operation cause => cause.causes
  | _ => []

end StepError

/-- Why a pipeline stopped. -/
inductive PipelineError where
  /-- The entry at a position describes no step, and no step was run. -/
  | format (index : Nat) (cause : FormatError)
  /-- The step at a position failed. -/
  | step (name : String) (index : Nat) (cause : StepError)
  deriving DecidableEq, Repr

namespace PipelineError

/-- The wording of an error. -/
def message : PipelineError → String
  | .format index cause => "step " ++ toString index ++ " is malformed: " ++ cause.message
  | .step name index _ =>
    "encountered error while running " ++ name ++ " (step " ++ toString index ++ ")"

/-- The messages of what caused an error. -/
def causes : PipelineError → List String
  | .format _ cause => [cause.message]
  | .step _ _ cause => cause.message :: cause.causes

/-- An error as a failure with its causes. -/
def toFailure (error : PipelineError) : Failure := ⟨error.message, error.causes⟩

end PipelineError

end Runbook
