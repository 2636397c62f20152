import Runbook.Proofs.Template.Single
import Runbook.Resolution
import Runbook.Store.Table

/-! # The values of texts

What becomes of a text without a look into the pieces that it is scanned into: the value of an
expression if it is one placeholder and nothing else, and otherwise a text again.

* **`Resolution.native_iff_whole`** — a value keeps its type where the text is one placeholder and
  nothing else, and nowhere else.
* **`Resolution.string_of_no_placeholder`** — a text without placeholders is what its spans stand for,
  wherever it is resolved.
* **`Resolution.value_of_no_closing`** — in a text in which nothing is closed, escapes are undone up to
  the first opening that is not escaped. -/

namespace Runbook.Resolution

variable {sources : Sources} {text : String}

/-! ## One placeholder and nothing else -/

/-- A text that is one placeholder has the value of its expression. -/
theorem value_of_isWhole {inner : List Char} (h : Template.IsWhole inner text.toList) :
    value sources (.string text) = expression sources inner := by
  rw [value, string, Template.segments_eq_placeholder_iff.mpr h]

/-- The value of any other text is a text, if it has one. -/
theorem value_of_not_isWhole (h : ∀ inner, ¬ Template.IsWhole inner text.toList) :
    (∃ e, value sources (.string text) = .error e) ∨
      ∃ shown, value sources (.string text) = .ok (.string shown) := by
  rw [value, string]
  split
  · rename_i inner hsole
    exact absurd (Template.segments_eq_placeholder_iff.mp hsole) (h inner)
  · cases substitute sources (Template.segments text.toList) with
    | error e => exact .inl ⟨e, rfl⟩
    | ok chars => exact .inr ⟨String.ofList chars, rfl⟩

/-- **A value keeps its type where the text is one placeholder and nothing else.** A text is scanned as
one placeholder if and only if it is an opening, a text that holds more than blanks and neither holds
a closing nor ends in half of one, and a closing. Its value is then that of the expression between
them, whatever its type; every other text fails or becomes a text. -/
theorem native_iff_whole (text : String) :
    (∀ inner, Template.segments text.toList = [.placeholder inner] ↔
      Template.IsWhole inner text.toList) ∧
    ∀ sources : Sources,
      (∀ inner, Template.IsWhole inner text.toList →
        value sources (.string text) = expression sources inner) ∧
      ((∀ inner, ¬ Template.IsWhole inner text.toList) →
        (∃ e, value sources (.string text) = .error e) ∨
          ∃ shown, value sources (.string text) = .ok (.string shown)) :=
  ⟨fun _ => Template.segments_eq_placeholder_iff,
    fun _ => ⟨fun _ => value_of_isWhole, value_of_not_isWhole⟩⟩

/-- Sources with a number and nothing else. -/
def portSources : Sources where
  outputs := .seeded [("port", .number (.integer 8080))]
  environment := .ofList []
  store := TableStore.empty.toStore

/-- A number stays a number between braces, and a blank in front of these makes it a text. -/
theorem native_portText :
    Template.IsWhole "port".toList "\x7b\x7b\tport \x7d\x7d".toList ∧
      value portSources (.string "\x7b\x7b\tport \x7d\x7d") = .ok (.number (.integer 8080)) ∧
      (∀ inner, ¬ Template.IsWhole inner " \x7b\x7b\tport \x7d\x7d".toList) ∧
      ∃ shown, value portSources (.string " \x7b\x7b\tport \x7d\x7d") = .ok (.string shown) := by
  have hwhole : Template.IsWhole "port".toList "\x7b\x7b\tport \x7d\x7d".toList :=
    ⟨"\tport ".toList, by decide +kernel, by decide +kernel, by decide +kernel, by decide +kernel,
      by decide +kernel⟩
  have hnot : ∀ inner, ¬ Template.IsWhole inner " \x7b\x7b\tport \x7d\x7d".toList := by
    rintro inner ⟨raw, htext, -⟩
    exact absurd (List.cons.inj htext).1 (by decide)
  have hnative := ((native_iff_whole "\x7b\x7b\tport \x7d\x7d").2 portSources).1 _ hwhole
  have htext := ((native_iff_whole " \x7b\x7b\tport \x7d\x7d").2 portSources).2 hnot
  refine ⟨hwhole, hnative.trans rfl, hnot, htext.resolve_left ?_⟩
  rintro ⟨e, he⟩
  cases he

/-! ## No placeholder -/

/-- A text that is one literal is that literal. -/
theorem string_of_literal {text shown : List Char}
    (h : Template.segments text = Template.prependLiteral shown []) (sources : Sources) :
    string sources text = .ok (.string (String.ofList shown)) := by
  rw [string, h]
  cases shown with
  | nil => rfl
  | cons c shown =>
    rw [Template.prependLiteral_eq (List.cons_ne_nil c shown)]
    simp [substitute, Except.map]

/-- **A text without placeholders is what its spans stand for.** -/
theorem string_of_no_placeholder {text : List Char} (h : Template.placeholders text = [])
    (sources : Sources) :
    string sources text =
      .ok (.string (String.ofList ((Template.spans text).flatMap Span.literal))) :=
  string_of_literal (Template.segments_of_no_placeholder h) sources

/-! ## No closing -/

/-- **Where nothing is closed, escapes are undone up to the first opening** that is not escaped itself,
and everything from there on is left as it is written. So all the escapes of the text are undone if
and only if none stands behind such an opening. -/
theorem value_of_no_closing (sources : Sources) (text : String)
    (h : ¬ ['}', '}'] <:+: text.toList) :
    value sources (.string text) = .ok (.string (String.ofList
        (Template.unescape (Template.cutOpening text.toList).1 ++
          (Template.cutOpening text.toList).2))) ∧
      (value sources (.string text) = .ok (.string (String.ofList (Template.unescape text.toList))) ↔
        ¬ ['\\', '{', '{'] <:+: (Template.cutOpening text.toList).2) := by
  have hvalue : value sources (.string text) = .ok (.string (String.ofList
      (Template.unescape (Template.cutOpening text.toList).1 ++
        (Template.cutOpening text.toList).2))) := by
    rw [value, string_of_no_placeholder (Template.placeholders_of_no_closing h),
      Template.flatMap_literal_of_no_closing h]
  refine ⟨hvalue, ?_⟩
  rw [hvalue, Except.ok.injEq, Json.string.injEq, String.ofList_inj,
    Template.unescape_eq_append text.toList, List.append_cancel_left_eq, eq_comm]
  exact Template.unescape_eq_self_iff

/-- An escape in front of an opening that is never closed is undone. -/
theorem value_unclosedText :
    ¬ ['}', '}'] <:+: "\\\x7b\x7b a \x7d \x7b\x7b b".toList ∧
      value portSources (.string "\\\x7b\x7b a \x7d \x7b\x7b b") =
        .ok (.string "\x7b\x7b a \x7d \x7b\x7b b") := by
  have hclosing : ¬ ['}', '}'] <:+: "\\\x7b\x7b a \x7d \x7b\x7b b".toList := by decide +kernel
  have hbehind : ¬ ['\\', '{', '{'] <:+:
      (Template.cutOpening "\\\x7b\x7b a \x7d \x7b\x7b b".toList).2 := by decide +kernel
  have hvalue := (value_of_no_closing portSources _ hclosing).2.mpr hbehind
  exact ⟨hclosing, hvalue.trans (by decide +kernel)⟩

/-- An escape behind such an opening is left as it is written. -/
theorem value_escape_behind_opening :
    ¬ ['}', '}'] <:+: "\x7b\x7b \\\x7b\x7b".toList ∧
      Template.unescape "\x7b\x7b \\\x7b\x7b".toList = "\x7b\x7b \x7b\x7b".toList ∧
      value portSources (.string "\x7b\x7b \\\x7b\x7b") = .ok (.string "\x7b\x7b \\\x7b\x7b") ∧
      value portSources (.string "\x7b\x7b \\\x7b\x7b") ≠ .ok (.string "\x7b\x7b \x7b\x7b") := by
  have hvalue : value portSources (.string "\x7b\x7b \\\x7b\x7b") =
      .ok (.string "\x7b\x7b \\\x7b\x7b") := by decide +kernel
  refine ⟨by decide +kernel, by decide +kernel, hvalue, ?_⟩
  rw [hvalue]
  decide +kernel

end Runbook.Resolution
