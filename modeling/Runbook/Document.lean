import Runbook.Table
import Runbook.Tree

/-! # Pipeline documents

A document lists the entries of steps, in one section or in several that have names. The entries are
looked at only when their section runs.

* **`PipelineDocument`** — a name, a description and the sections in the order of writing.
* **`PipelineDocument.ofTree`** — reads a document: a sequence is the section `steps`, and the members
  of a mapping are sections of their own.
* **`PipelineDocument.section?`**, **`PipelineDocument.defaultSection?`** — the entries of a section,
  and the section that runs when none is asked for. -/

namespace Runbook

/-- What is wrong with a document. -/
inductive DocumentError where
  /-- It is neither a sequence nor a mapping of the expected kind. -/
  | unrecognized
  /-- A section is something else than a sequence. -/
  | notASequence (name : String)
  /-- There is no section of a name. -/
  | missingSection (name : String) (available : List String)
  deriving DecidableEq, Repr

/-- The wording of an error. -/
def DocumentError.message : DocumentError → String
  | .unrecognized => "data did not match any variant of untagged enum RawPipelineDocument"
  | .notASequence name => "section '" ++ name ++ "' must be a sequence of steps"
  | .missingSection name available =>
    "section '" ++ name ++ "' was not found; available sections: "
      ++ String.intercalate ", " available

/-- A pipeline document. -/
structure PipelineDocument where
  /-- Its name. -/
  name : Option String
  /-- What it is for. -/
  description : Option String
  /-- The entries of its sections. -/
  sections : Table (List Json)
  deriving DecidableEq

namespace PipelineDocument

/-- The section of a document that is a bare sequence. -/
def soleSection : String := "steps"

/-- The section that is preferred when there are several. -/
def preferredSection : String := "pull"

/-- The values of the members of a mapping under a key. -/
def under (key : String) (members : List (String × Tree)) : List Tree :=
  (members.filter fun member => member.1 == key).map Prod.snd

/-- The text of a member that may be missing, may be null and may not be repeated. -/
def text? : List Tree → Except DocumentError (Option String)
  | [] | [.null] => .ok none
  | [.string text] => .ok (some text)
  | _ => .error .unrecognized

/-- The members of a mapping that are sections, as data. -/
def sectionValues? (members : List (String × Tree)) : Option (List (String × Json)) :=
  (members.filter fun member => member.1 != "name" && member.1 != "description").mapM
    fun (name, tree) => tree.json?.map fun value => (name, value)

/-- The entries of each section; null stands for none. -/
def entries : List (String × Json) → Except DocumentError (List (String × List Json))
  | [] => .ok []
  | (name, .array items) :: rest => (entries rest).map fun found => (name, items) :: found
  | (name, .null) :: rest => (entries rest).map fun found => (name, []) :: found
  | (name, _) :: _ => .error (.notASequence name)

/-- The document of the members of a mapping. -/
def ofMembers (members : List (String × Tree)) : Except DocumentError PipelineDocument := do
  let name ← text? (under "name" members)
  let description ← text? (under "description" members)
  match sectionValues? members with
  | none => .error .unrecognized
  | some values => do
    let found ← entries (Table.ofList values).entries
    .ok ⟨name, description, .ofList found⟩

/-- The document that a tree describes. -/
def ofTree : Tree → Except DocumentError PipelineDocument
  | .sequence items =>
    match Tree.jsonItems? items with
    | some values => .ok ⟨none, none, Table.empty.insert soleSection values⟩
    | none => .error .unrecognized
  | .mapping entries =>
    match Tree.members? entries with
    | some members => ofMembers members
    | none => .error .unrecognized
  | _ => .error .unrecognized

/-- The document tree of a text that may be missing. -/
def textTree : Option String → Tree
  | some text => .string text
  | none => .null

/-- The document tree in which a document is saved. -/
def toTree (document : PipelineDocument) : Tree :=
  .record [
    ("name", textTree document.name),
    ("description", textTree document.description),
    ("sections",
      .record (document.sections.entries.map fun (name, entries) =>
        (name, .sequence (Tree.ofItems entries))))]

/-- The entries of a section. -/
def section? (document : PipelineDocument) (name : String) : Except DocumentError (List Json) :=
  match document.sections.get? name with
  | some entries => .ok entries
  | none => .error (.missingSection name document.sections.keys)

/-- The section that runs when none is asked for: the only one, or else `pull` or `steps`. -/
def defaultSection? (document : PipelineDocument) : Option String :=
  match document.sections.keys with
  | [name] => some name
  | _ => [preferredSection, soleSection].find? document.sections.contains

end PipelineDocument

end Runbook
