import Runbook.Json.Printer
import Runbook.Template

/-! # Placeholders of a tree

* **`Placeholder.collect`** — every placeholder in the strings of a tree, in order, each with the
  place of its string. Keys of mappings are not looked at. -/

namespace Runbook

/-- A placeholder and the place of the string that holds it. -/
structure Placeholder where
  /-- The place of the string, for example `parameters.env.TOKEN` or `parameters.args[2]`. -/
  place : String
  /-- The expression of the placeholder. -/
  expression : String
  deriving DecidableEq, Repr

namespace Placeholder

/-- The place of an item of a sequence. -/
def itemPlace (place : String) (index : Nat) : String :=
  place ++ "[" ++ String.ofList (Binary64.digitsText index) ++ "]"

/-- The place of a member of a mapping. -/
def memberPlace (place key : String) : String := place ++ "." ++ key

mutual

/-- The placeholders of a tree that stands at `place`. -/
def collect (place : String) : Json → List Placeholder
  | .string text =>
    (Template.placeholders text.toList).map fun expression => ⟨place, String.ofList expression⟩
  | .array items => collectItems place 0 items
  | .object fields => collectFields place fields
  | .null | .bool _ | .number _ => []

/-- The placeholders of items, the first of which stands at `index`. -/
def collectItems (place : String) (index : Nat) : List Json → List Placeholder
  | [] => []
  | item :: rest => collect (itemPlace place index) item ++ collectItems place (index + 1) rest

/-- The placeholders of the members of a mapping. -/
def collectFields (place : String) : List (String × Json) → List Placeholder
  | [] => []
  | (key, value) :: rest => collect (memberPlace place key) value ++ collectFields place rest

end

end Placeholder

end Runbook
