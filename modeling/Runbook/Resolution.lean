import Runbook.Environment
import Runbook.Json.Printer
import Runbook.Outputs
import Runbook.Reference.Basic
import Runbook.Store.Basic
import Runbook.Template

/-! # Resolution of placeholders

The placeholders in the strings of a tree are replaced by what they refer to. A string that is one
placeholder and nothing else becomes the value itself, whatever its type; any other string stays a
string, in which a value is displayed.

* **`Sources`** — where references are looked up.
* **`Resolution.expression`** — the value of one expression.
* **`Resolution.value`** — a tree with its placeholders replaced; the first failure in the order of
  the tree is the failure of the whole. -/

namespace Runbook

/-- Where references are looked up. -/
structure Sources where
  /-- The outputs of earlier steps. -/
  outputs : Outputs
  /-- The environment variables. -/
  environment : Environment
  /-- The blocks and variables. -/
  store : Store

/-- Why a placeholder has no value. -/
inductive ResolutionError where
  /-- No output has the path of the expression. -/
  | unresolved (expression : String)
  /-- The expression has the shape of no reference. -/
  | malformed (expression : String)
  /-- The store does not answer. -/
  | store (expression : String) (cause : StoreError)
  /-- The document or value in the store has no such field. -/
  | missingField (expression : String)
  deriving DecidableEq, Repr

/-- The wording of an error. -/
def ResolutionError.message : ResolutionError → String
  | .unresolved expression =>
    "unresolved placeholder '" ++ expression ++ "': no step output or root field matches"
  | .malformed expression =>
    "malformed placeholder '" ++ expression ++ "': expected store.blocks.<type>.<name>, " ++
      "store.variables.<name>, $NAME, or <step_id>.<field>"
  | .store expression cause =>
    "unresolved placeholder '" ++ expression ++ "': " ++ cause.message
  | .missingField expression =>
    "unresolved placeholder '" ++ expression ++ "': the referenced document has no such field"

namespace Resolution

/-- What a block stands for as a whole: a document with no member but `value` stands for that. -/
def collapse : Json → Json
  | .object [("value", value)] => value
  | document => document

/-- The part of a stored value that a path selects. -/
def field (expression : String) (value : Json) (path : List String) :
    Except ResolutionError Json :=
  match value.select? path with
  | some part => .ok part
  | none => .error (.missingField expression)

/-- What a reference refers to; `expression` is its text, for errors. An environment variable that
is not set stands for its own name after a dollar. -/
def reference (sources : Sources) (expression : String) : Reference → Except ResolutionError Json
  | .block type name path =>
    match sources.store.readBlock type name with
    | .error cause => .error (.store expression cause)
    | .ok document =>
      match path with
      | [] => .ok (collapse document)
      | path => field expression document path
  | .variable name path =>
    match sources.store.readVariable name with
    | .error cause => .error (.store expression cause)
    | .ok value => field expression value path
  | .environment name =>
    .ok (.string ((sources.environment.value? name).getD ("$" ++ name)))
  | .output path =>
    match sources.outputs.lookup path with
    | some value => .ok value
    | none => .error (.unresolved expression)

/-- The value of an expression. -/
def expression (sources : Sources) (text : List Char) : Except ResolutionError Json :=
  match Reference.parse? text with
  | some target => reference sources (String.ofList text) target
  | none => .error (.malformed (String.ofList text))

/-- The text of pieces in which each placeholder is replaced by the display of its value. -/
def substitute (sources : Sources) : List Segment → Except ResolutionError (List Char)
  | [] => .ok []
  | .literal text :: rest => (substitute sources rest).map (text ++ ·)
  | .placeholder text :: rest =>
    match expression sources text with
    | .error e => .error e
    | .ok value => (substitute sources rest).map (value.display.toList ++ ·)

/-- The value of a string. -/
def string (sources : Sources) (text : List Char) : Except ResolutionError Json :=
  match Template.segments text with
  | [.placeholder inner] => expression sources inner
  | segments => (substitute sources segments).map fun chars => .string (String.ofList chars)

mutual

/-- A tree with its placeholders replaced. -/
def value (sources : Sources) : Json → Except ResolutionError Json
  | .string text => string sources text.toList
  | .array items => (valueItems sources items).map .array
  | .object fields => (valueFields sources fields).map .object
  | .null => .ok .null
  | .bool b => .ok (.bool b)
  | .number n => .ok (.number n)

/-- Items with their placeholders replaced. -/
def valueItems (sources : Sources) : List Json → Except ResolutionError (List Json)
  | [] => .ok []
  | item :: rest =>
    match value sources item with
    | .error e => .error e
    | .ok item => (valueItems sources rest).map (item :: ·)

/-- Members with the placeholders of their values replaced. -/
def valueFields (sources : Sources) :
    List (String × Json) → Except ResolutionError (List (String × Json))
  | [] => .ok []
  | (key, member) :: rest =>
    match value sources member with
    | .error e => .error e
    | .ok member => (valueFields sources rest).map ((key, member) :: ·)

end

/-- Parameters with their placeholders replaced. -/
def parameters (sources : Sources) (fields : Fields) : Except ResolutionError Fields :=
  valueFields sources fields

end Resolution

end Runbook
