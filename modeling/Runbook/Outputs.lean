import Runbook.Json.Basic
import Runbook.Reference.Path
import Runbook.Table

/-! # Outputs of earlier steps

What later steps can refer to: the output of each step that has an identifier, and a root view in
which every member of an output that is a mapping replaces the member of the same key.

* **`Outputs`** — the outputs by identifier, in order of their first step, and the root view.
* **`Outputs.record`** — adds the output of a step.
* **`Outputs.lookup`** — what a path finds: first in the step that it names, then in the root view.
* **`Outputs.merged`** — the root view with the output of each step on top. -/

namespace Runbook

/-- The part of a value that a path selects: members of mappings by key, items of sequences by
position. -/
def Json.select? (value : Json) : List String → Option Json
  | [] => some value
  | segment :: rest =>
    match value with
    | .object fields =>
      match Fields.get? fields segment with
      | some member => member.select? rest
      | none => none
    | .array items =>
      match Path.position? segment with
      | some position =>
        match items[position]? with
        | some item => item.select? rest
        | none => none
      | none => none
    | .null | .bool _ | .number _ | .string _ => none

/-- The outputs of the steps that have run. -/
structure Outputs where
  /-- The outputs of the steps that have an identifier. -/
  steps : Table Json
  /-- The latest value of every key among the outputs that are mappings. -/
  root : Fields
  deriving DecidableEq

namespace Outputs

/-- The outputs before any step, with a root view to start from. -/
def seeded (seed : Fields) : Outputs := ⟨∅, seed⟩

/-- The outputs before any step. -/
def empty : Outputs := seeded []

instance : Inhabited Outputs := ⟨empty⟩

/-- Whether there is no output at all. -/
def isEmpty (outputs : Outputs) : Bool := outputs.steps.isEmpty && outputs.root.isEmpty

/-- The output of the step with an identifier. -/
def stepOutput? (outputs : Outputs) (id : String) : Option Json := outputs.steps.get? id

/-- Adds the output of a step, under its identifier if it has one. -/
def record (outputs : Outputs) (id : Option String) (output : Json) : Outputs where
  steps := match id with
    | some id => outputs.steps.insert id output
    | none => outputs.steps
  root := match output with
    | .object fields => Fields.update outputs.root fields
    | _ => outputs.root

/-- What a path finds: the rest of it in the output of the step that it names first, or else in the
root view. -/
def lookup (outputs : Outputs) : List String → Option Json
  | [] => none
  | head :: rest =>
    ((outputs.stepOutput? head).bind fun output => output.select? rest).or
      ((Fields.get? outputs.root head).bind fun value => value.select? rest)

/-- The root view in which the output of each step, one after another, has been put under its
identifier. -/
def merged (outputs : Outputs) : Fields :=
  outputs.steps.entries.foldl (fun view step => Fields.insert view step.1 step.2) outputs.root

/-- The mapping that is handed over to a later run: the root view extended by all the steps. -/
def handOver (outputs : Outputs) : Fields := Fields.update outputs.root outputs.steps.entries

end Outputs

end Runbook
