import Runbook.Cli.Arguments
import Runbook.Json.Parser
import Runbook.Operation
import Runbook.Text.Blank

/-! # Assignments

* **`Seed.ofAssignments`** — the values that a run starts with, from texts such as `stage=prod`. -/

namespace Runbook.Seed

/-- The failure of an assignment. -/
def malformed (assignment : String) : Failure :=
  .ofMessage ("expected KEY=VALUE, got '" ++ assignment ++ "'")

/-- The key and the value of an assignment. The value is data if its text is, and else that text. -/
def ofAssignment (assignment : String) : Except Failure (String × Json) :=
  match Cli.cutAtEquals assignment.toList with
  | (_, none) => .error (malformed assignment)
  | (key, some value) =>
    let key := Text.trim key
    if key.isEmpty then .error (malformed assignment)
    else .ok (String.ofList key, Json.ofPayload (String.ofList value))

/-- The values that assignments give; the last of a key counts. -/
def ofAssignments : Fields → List String → Except Failure Fields
  | found, [] => .ok found
  | found, assignment :: rest =>
    match ofAssignment assignment with
    | .error failure => .error failure
    | .ok (key, value) => ofAssignments (found.insert key value) rest

end Runbook.Seed
