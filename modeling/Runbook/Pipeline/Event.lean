import Runbook.Pipeline.Error

/-! # What happens during a run

* **`Event`** — an attempt to print, a call of an operation, or an entry of the log. -/

namespace Runbook

/-- An entry of the log. -/
inductive LogEntry where
  /-- The parameters of a step have been resolved; secrets in their text are redacted. -/
  | parametersResolved (step : String) (id : Option String) (parameters : String)
  /-- A step failed and the pipeline stops. -/
  | stepFailed (step : String) (index : Nat) (error : StepError)
  /-- A failed operation had raised a diagnostic. -/
  | raisedByFailedStep (operation : String) (message : String)
  /-- A message could not be printed. -/
  | messageDropped (error message : String)
  /-- A step that was run by itself raised a diagnostic. -/
  | raised (step : String) (diagnostic : Diagnostic)
  deriving DecidableEq, Repr

/-- Something that happens during a run. -/
inductive Event where
  /-- An attempt to print a message. -/
  | print (message : String) (style : Option String)
  /-- A call of the operation of that name. -/
  | call (operation : String) (parameters : Fields)
  /-- An entry of the log. -/
  | log (entry : LogEntry)
  deriving DecidableEq

namespace Event

/-- The attempts to print, in order. -/
def prints (events : List Event) : List (String × Option String) :=
  events.filterMap fun
    | .print message style => some (message, style)
    | _ => none

/-- The calls of operations, in order. -/
def calls (events : List Event) : List (String × Fields) :=
  events.filterMap fun
    | .call operation parameters => some (operation, parameters)
    | _ => none

/-- The entries of the log, in order. -/
def logs (events : List Event) : List LogEntry :=
  events.filterMap fun
    | .log entry => some entry
    | _ => none

end Event

end Runbook
