import Runbook.Placeholder
import Runbook.Proofs.Json.Tree
import Runbook.Proofs.Outcome
import Runbook.Proofs.Template.Spans
import Runbook.Resolution

/-! # Resolution fails at the first placeholder that has no value

The listing of placeholders and the resolution of a tree go through the tree apart from each other.
They meet the same expressions in the same order.

* **`Resolution.errorOf?_value`** — the error of a tree is the first among the errors of the
  placeholders that are listed for it.
* **`Placeholder.collect_eq_spans`** — what is listed are the placeholder spans of the strings of the
  tree; escaped, unclosed and empty spans are passed over.
* **`Resolution.value_follows_listing`** — both together: success, failure and the spans that neither
  the listing nor the resolution looks at. -/

namespace Runbook

namespace Resolution

variable (sources : Sources)

/-- The error of an expression, if it has no value. -/
def errorAt? (text : List Char) : Option ResolutionError := errorOf? (expression sources text)

/-! ## Texts -/

/-- Pieces fail at the first expression among them that has no value. -/
theorem errorOf?_substitute (pieces : List Segment) :
    errorOf? (substitute sources pieces) =
      (Template.expressions pieces).findSome? (errorAt? sources) := by
  induction pieces with
  | nil => rfl
  | cons piece rest ih =>
    cases piece with
    | literal text =>
      rw [substitute, errorOf?_map, ih]
      rfl
    | placeholder inner =>
      have hexpressions : Template.expressions (.placeholder inner :: rest) =
          inner :: Template.expressions rest := rfl
      rw [hexpressions, List.findSome?_cons, errorAt?, substitute]
      cases expression sources inner with
      | error e => rfl
      | ok value =>
        rw [errorOf?_map, ih]
        rfl

/-- **A text fails at the first of its placeholders that has no value**, whether it is one
placeholder and nothing else or holds several among other text. -/
theorem errorOf?_string (text : List Char) :
    errorOf? (string sources text) =
      (Template.placeholders text).findSome? (errorAt? sources) := by
  rw [Template.placeholders, string]
  split
  · rename_i inner hsole
    rw [hsole]
    change errorAt? sources inner = [inner].findSome? (errorAt? sources)
    rw [List.findSome?_singleton]
  · rw [errorOf?_map, errorOf?_substitute]

/-! ## Trees -/

/-- The error of a listed placeholder, if it has no value. -/
def errorOfListed? (found : Placeholder) : Option ResolutionError :=
  errorAt? sources found.expression.toList

/-- Items fail at the first that fails. -/
theorem errorOf?_valueItems (items : List Json) (place : String) (index : Nat)
    (h : ∀ item ∈ items, ∀ place, errorOf? (value sources item) =
      (Placeholder.collect place item).findSome? (errorOfListed? sources)) :
    errorOf? (valueItems sources items) =
      (Placeholder.collectItems place index items).findSome? (errorOfListed? sources) := by
  induction items generalizing index with
  | nil => rfl
  | cons item rest ih =>
    obtain ⟨hitem, hrest⟩ := List.forall_mem_cons.mp h
    rw [Placeholder.collectItems, List.findSome?_append, ← hitem, ← ih (index + 1) hrest, valueItems]
    cases value sources item with
    | error e => rfl
    | ok value => rw [errorOf?_map]; rfl

/-- Members fail at the first that fails. -/
theorem errorOf?_valueFields (fields : Fields) (place : String)
    (h : ∀ field ∈ fields, ∀ place, errorOf? (value sources field.2) =
      (Placeholder.collect place field.2).findSome? (errorOfListed? sources)) :
    errorOf? (valueFields sources fields) =
      (Placeholder.collectFields place fields).findSome? (errorOfListed? sources) := by
  induction fields with
  | nil => rfl
  | cons field rest ih =>
    obtain ⟨key, member⟩ := field
    obtain ⟨hmember, hrest⟩ := List.forall_mem_cons.mp h
    rw [Placeholder.collectFields, List.findSome?_append, ← hmember, ← ih hrest, valueFields]
    cases value sources member with
    | error e => rfl
    | ok value => rw [errorOf?_map]; rfl

/-- **The error of a tree is the first among the errors of its listed placeholders.** -/
theorem errorOf?_value (tree : Json) (place : String) :
    errorOf? (value sources tree) =
      (Placeholder.collect place tree).findSome? (errorOfListed? sources) := by
  induction tree generalizing place with
  | null => rfl
  | bool value => rfl
  | number value => rfl
  | string text =>
    rw [value, errorOf?_string, Placeholder.collect, List.findSome?_map]
    congr 1
    funext inner
    simp [errorOfListed?]
  | array items ih =>
    rw [value, errorOf?_map, Placeholder.collect]
    exact errorOf?_valueItems sources items place 0 ih
  | object fields ih =>
    rw [value, errorOf?_map, Placeholder.collect]
    exact errorOf?_valueFields sources fields place ih

/-- Parameters fail at the first of their listed placeholders that has no value. -/
theorem errorOf?_parameters (fields : Fields) (place : String) :
    errorOf? (parameters sources fields) =
      (Placeholder.collect place (.object fields)).findSome? (errorOfListed? sources) := by
  rw [← errorOf?_value, value, errorOf?_map, parameters]

end Resolution

namespace Placeholder

/-! ## Spans of the strings of a tree -/

/-- The expressions of the placeholder spans of a text. -/
def spanExpressions (text : String) : List String :=
  ((Template.spans text.toList).filterMap Span.expression?).map String.ofList

/-- **What is listed are the placeholder spans of the strings of a tree**, string by string. -/
theorem collect_eq_spans (tree : Json) (place : String) :
    (collect place tree).map Placeholder.expression = tree.strings.flatMap spanExpressions := by
  induction tree generalizing place with
  | null => rfl
  | bool value => rfl
  | number value => rfl
  | string text =>
    rw [collect, Template.placeholders_eq_spans, List.map_map, Json.strings, List.flatMap_singleton]
    rfl
  | array items ih =>
    rw [collect, Json.strings]
    generalize 0 = index
    induction items generalizing index with
    | nil => rfl
    | cons item rest ihrest =>
      obtain ⟨hitem, hrest⟩ := List.forall_mem_cons.mp ih
      rw [collectItems, List.map_append, hitem, Json.stringsItems, List.flatMap_append,
        ihrest hrest]
  | object fields ih =>
    rw [collect, Json.strings]
    induction fields with
    | nil => rfl
    | cons field rest ihrest =>
      obtain ⟨hfield, hrest⟩ := List.forall_mem_cons.mp ih
      rw [collectFields, List.map_append, hfield, Json.stringsFields, List.flatMap_append,
        ihrest hrest]

end Placeholder

namespace Resolution

/-- **The listing and the resolution of a tree agree.** A tree has a value exactly if every listed
expression has one, and otherwise its error is that of the first listed expression without a value.
The strings of a tree are cut into spans without a loss, and only the placeholders among these are
listed: what is escaped, unclosed or empty makes no difference to either. -/
theorem value_follows_listing (sources : Sources) (tree : Json) (place : String) :
    ((∃ result, value sources tree = .ok result) ↔
      ∀ found ∈ Placeholder.collect place tree,
        ∃ part, expression sources found.expression.toList = .ok part) ∧
    (∀ e, value sources tree = .error e ↔
      ∃ before found after, Placeholder.collect place tree = before ++ found :: after ∧
        (∀ earlier ∈ before, ∃ part, expression sources earlier.expression.toList = .ok part) ∧
        expression sources found.expression.toList = .error e) ∧
    (Placeholder.collect place tree).map Placeholder.expression =
      tree.strings.flatMap Placeholder.spanExpressions ∧
    ∀ text ∈ tree.strings, (Template.spans text.toList).flatMap Span.text = text.toList ∧
      ∀ span ∈ Template.spans text.toList, span.WellFormed := by
  refine ⟨?_, ?_, Placeholder.collect_eq_spans tree place, ?_⟩
  · rw [← errorOf?_eq_none_iff, errorOf?_value sources tree place, List.findSome?_eq_none_iff]
    exact forall₂_congr fun found _ => errorOf?_eq_none_iff
  · intro e
    rw [← errorOf?_eq_some_iff, errorOf?_value sources tree place, List.findSome?_eq_some_iff]
    constructor
    · rintro ⟨before, found, after, hlist, hfound, hbefore⟩
      exact ⟨before, found, after, hlist,
        fun earlier h => errorOf?_eq_none_iff.mp (hbefore earlier h), errorOf?_eq_some_iff.mp hfound⟩
    · rintro ⟨before, found, after, hlist, hbefore, hfound⟩
      exact ⟨before, found, after, hlist, errorOf?_eq_some_iff.mpr hfound,
        fun earlier h => errorOf?_eq_none_iff.mpr (hbefore earlier h)⟩
  · intro text _
    exact ⟨Template.spans_text _, fun span => Template.wellFormed_of_mem_spans⟩

end Resolution

end Runbook
