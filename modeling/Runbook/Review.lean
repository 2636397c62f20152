import Runbook.Placeholder
import Runbook.Reference.Basic
import Runbook.Registry
import Runbook.Step

/-! # Reviews

A review looks at the entries of a section without running anything.

* **`Finding`** — what a review says about an entry or about a placeholder in it.
* **`Review.findings`** — the findings of entries, in order.
* **`Review.problems`** — the number of findings that keep the entries from running: an entry that
  describes no step, or a placeholder that is no reference. -/

namespace Runbook

/-- How a registry knows the name of a step. -/
inductive Registration where
  /-- As the name of an operation. -/
  | current
  /-- As an old name for an operation. -/
  | old (name : String)
  /-- Not at all. -/
  | unknown
  deriving DecidableEq, Repr

namespace Registration

/-- How a name is known, in words. -/
def words : Registration → String
  | .current => "registered"
  | .old name => "deprecated, use " ++ name
  | .unknown => "not registered"

end Registration

/-- How a registry knows a name. -/
def Registry.registration {ω : Type} (registry : Registry ω) (name : String) : Registration :=
  match registry.resolve? name with
  | some ⟨_, _, none⟩ => .current
  | some ⟨found, _, some _⟩ => .old found
  | none => .unknown

/-- What a review says. -/
inductive Finding where
  /-- The entry at a position describes no step. -/
  | rejected (index : Nat) (error : FormatError)
  /-- The entry at a position describes a step. -/
  | accepted (index : Nat) (step : Step) (registration : Registration)
  /-- A step has a placeholder, which may be a reference. -/
  | placeholder (found : Placeholder) (reference : Option Reference)
  deriving DecidableEq

namespace Finding

/-- Whether a finding keeps the entries from running. -/
def isProblem : Finding → Bool
  | .rejected _ _ => true
  | .accepted _ _ _ => false
  | .placeholder _ reference => reference.isNone

/-- The line that shows a finding. -/
def line : Finding → String
  | .rejected index error => "[" ++ toString index ++ "] invalid: " ++ error.message
  | .accepted index step registration =>
    let id := match step.id with
      | some id => " id=" ++ id
      | none => ""
    "[" ++ toString index ++ "] " ++ step.name ++ id ++ " (" ++ registration.words ++ ")"
  | .placeholder found reference =>
    let space := match reference with
      | some reference => reference.namespaceName
      | none => "malformed"
    "    " ++ found.place ++ ": \x7b\x7b " ++ found.expression ++ " \x7d\x7d (" ++ space
      ++ ")"

end Finding

namespace Review

variable {ω : Type}

/-- The finding of a placeholder. -/
def ofPlaceholder (placeholder : Placeholder) : Finding :=
  .placeholder placeholder (Reference.parse? placeholder.expression.toList)

/-- The placeholders in the parameters of a step. -/
def placeholders (step : Step) : List Placeholder :=
  Placeholder.collect "parameters" (.object step.parameters)

/-- The findings of the entry at a position. -/
def ofEntry (registry : Registry ω) (index : Nat) (entry : Json) : List Finding :=
  match Step.ofEntry entry with
  | .error error => [.rejected index error]
  | .ok step =>
    .accepted index step (registry.registration step.name)
      :: (placeholders step).map ofPlaceholder

/-- The findings of entries, the first of which stands at position `index`. -/
def findingsFrom (registry : Registry ω) (index : Nat) : List Json → List Finding
  | [] => []
  | entry :: rest => ofEntry registry index entry ++ findingsFrom registry (index + 1) rest

/-- The findings of the entries of a section. -/
def findings (registry : Registry ω) (entries : List Json) : List Finding :=
  findingsFrom registry 0 entries

/-- The number of findings that keep the entries from running. -/
def problems (found : List Finding) : Nat := found.countP Finding.isProblem

end Review

end Runbook
