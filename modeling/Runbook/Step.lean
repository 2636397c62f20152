import Runbook.Json.Printer
import Runbook.Text.Blank

/-! # Steps

An entry of a section is a mapping with one key, the name of the step, to the parameters of the step.
The parameters `id` and `requires` are about the step itself and are kept apart from the others.

* **`Step`** — a step as its entry describes it.
* **`Step.ofEntry`** — the step of an entry.
* **`FormatError`** — why an entry describes no step. -/

namespace Runbook

/-- Why an entry describes no step. -/
inductive FormatError where
  /-- The entry is no mapping. -/
  | notAMapping (found : String)
  /-- The entry names no step. -/
  | empty
  /-- The entry has several keys. -/
  | additionalKeys (keys : List String)
  /-- The parameters are no mapping. -/
  | parametersNotAMapping (name found : String)
  /-- The identifier is no text. -/
  | invalidId (name : String)
  /-- The packages that provide the step are no list of texts. -/
  | invalidRequires (name : String)
  deriving DecidableEq, Repr

/-- The wording of an error. -/
def FormatError.message : FormatError → String
  | .notAMapping found =>
    "step entry has an unexpected shape: expected a mapping with a single step name, found " ++ found
  | .empty => "step entry has an unexpected shape: no step name was provided"
  | .additionalKeys keys =>
    "step entry has unexpected additional keys: expected exactly one step name, found "
      ++ String.intercalate ", " keys
  | .parametersNotAMapping name found =>
    "step '" ++ name ++ "' has unexpected parameters: expected a mapping, found " ++ found
  | .invalidId name => "step '" ++ name ++ "' has an unexpected 'id': expected a non-empty string"
  | .invalidRequires name =>
    "step '" ++ name ++ "' has an unexpected 'requires': expected a string or a list of strings"

/-- A step of a pipeline. -/
structure Step where
  /-- The name of its operation. -/
  name : String
  /-- The identifier under which later steps find its output. -/
  id : Option String
  /-- The packages that are expected to provide its operation. -/
  requires : List String
  /-- Its parameters without the reserved ones, placeholders and all. -/
  parameters : Fields
  deriving DecidableEq

namespace Step

/-- The identifier that the reserved parameter gives. -/
def idOf (name : String) : Option Json → Except FormatError (Option String)
  | none | some .null => .ok none
  | some (.string id) => if Text.isBlankText id then .error (.invalidId name) else .ok (some id)
  | some _ => .error (.invalidId name)

/-- The strings of a list, if it holds nothing else. -/
def textsOf? : List Json → Option (List String)
  | [] => some []
  | .string text :: rest => (textsOf? rest).map (text :: ·)
  | _ :: _ => none

/-- The packages that the reserved parameter gives. -/
def requiresOf (name : String) : Option Json → Except FormatError (List String)
  | none | some .null => .ok []
  | some (.string package) => .ok [package]
  | some (.array packages) =>
    match textsOf? packages with
    | some packages => .ok packages
    | none => .error (.invalidRequires name)
  | some _ => .error (.invalidRequires name)

/-- The step with a name and parameters. -/
def ofParameters (name : String) (parameters : Fields) : Except FormatError Step :=
  match idOf name (Fields.get? parameters "id") with
  | .error e => .error e
  | .ok id =>
    match requiresOf name (Fields.get? parameters "requires") with
    | .error e => .error e
    | .ok requires => .ok ⟨name, id, requires, (parameters.erase "id").erase "requires"⟩

/-- The step of an entry. -/
def ofEntry : Json → Except FormatError Step
  | .object [] => .error .empty
  | .object [(name, parameters)] =>
    if Text.isBlankText name then .error .empty
    else
      match parameters with
      | .object fields => ofParameters name fields
      | .null => ofParameters name []
      | other => .error (.parametersNotAMapping name other.kind)
  | .object fields => .error (.additionalKeys (Fields.keys fields))
  | other => .error (.notAMapping other.kind)

/-- The last of the words between the dots of a name, for progress lines. -/
def shortName (step : Step) : String :=
  String.ofList (step.name.toList.reverse.takeWhile (· != '.')).reverse

end Step

end Runbook
