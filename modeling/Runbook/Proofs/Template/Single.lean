import Runbook.Proofs.Template.Rendering

/-! # Texts of a single piece

A text may be one placeholder and nothing else, or have no placeholder at all and be one literal. Both
can be told from the text itself: the first by its two ends, the second by its spans.

* **`Template.IsWhole`** — a text that is one placeholder and nothing else; these are the texts with
  just that piece (`segments_eq_placeholder_iff`).
* **`Span.literal`** — the text that a span stands for.
* **`Template.segments_of_no_placeholder`** — a text without placeholders is the literal of its spans.
* **`Template.unescape`** — a text with all its escapes undone.
* **`Template.cutOpening`** — a text cut in front of the first opening that is not escaped.
* **`Template.flatMap_literal_of_no_closing`** — where nothing is closed, escapes are undone up to this
  opening and left behind it. -/

namespace Runbook

namespace Span

/-- **The text that a span stands for**: an escape loses its backslash. A placeholder is left as it is
written. -/
def literal : Span → List Char
  | .escaped => ['{', '{']
  | .plain c => [c]
  | .unclosed inner => '{' :: '{' :: inner
  | .empty inner | .placeholder inner => '{' :: '{' :: (inner ++ ['}', '}'])

/-- Only escapes stand for another text than their own. -/
theorem literal_eq_text {span : Span} (h : span ≠ .escaped) : span.literal = span.text := by
  cases span with
  | escaped => exact absurd rfl h
  | plain c | unclosed inner | empty inner | placeholder inner => rfl

/-- A span without an expression is literal text. -/
theorem prepend_eq_prependLiteral {span : Span} (h : span.expression? = none)
    (pieces : List Segment) : span.prepend pieces = Template.prependLiteral span.literal pieces := by
  cases span with
  | placeholder inner => cases h
  | plain c | escaped | unclosed inner | empty inner => rfl

end Span

namespace Template

/-! ## One placeholder and nothing else -/

/-- **A text that is one placeholder and nothing else**: an opening, a text without a closing that also
does not end in half of one, and a closing. -/
def IsWhole (expression text : List Char) : Prop :=
  ∃ raw, text = '{' :: '{' :: (raw ++ ['}', '}']) ∧ ¬ ['}', '}'] <:+: raw ∧ ¬ ['}'] <:+ raw ∧
    Text.trim raw = expression ∧ expression ≠ []

/-- A closing is the nearest one if none is in front of it and no brace joins it. -/
theorem closing_infix_concat_iff {inner : List Char} :
    ['}', '}'] <:+: inner ++ ['}'] ↔ ['}', '}'] <:+: inner ∨ ['}'] <:+ inner := by
  rw [List.infix_concat_iff, or_comm]
  refine or_congr_right ⟨?_, ?_⟩
  · rintro ⟨more, hmore⟩
    have hlonger : (more ++ ['}']) ++ ['}'] = inner ++ ['}'] := by simpa using hmore
    exact ⟨more, List.append_cancel_right hlonger⟩
  · rintro ⟨more, rfl⟩
    exact ⟨more, by simp⟩

/-- Every span leaves a piece. -/
theorem prepend_ne_nil (span : Span) (pieces : List Segment) : span.prepend pieces ≠ [] := by
  cases span with
  | placeholder inner => exact List.cons_ne_nil _ _
  | plain c | escaped | unclosed inner | empty inner =>
    rw [Span.prepend_eq_prependLiteral rfl, prependLiteral_eq (by simp [Span.literal])]
    split <;> simp

theorem assemble_eq_nil_iff {spans : List Span} : assemble spans = [] ↔ spans = [] := by
  cases spans with
  | nil => simp
  | cons span rest => simp [prepend_ne_nil]

/-- Pieces begin with a placeholder only if the spans do. -/
theorem eq_placeholder_of_prepend {span : Span} {pieces rest : List Segment}
    {expression : List Char} (h : span.prepend pieces = .placeholder expression :: rest) :
    pieces = rest ∧ ∃ inner, span = .placeholder inner ∧ Text.trim inner = expression := by
  cases span with
  | placeholder inner =>
    obtain ⟨hpiece, hrest⟩ := List.cons.inj h
    exact ⟨hrest, inner, rfl, Segment.placeholder.inj hpiece⟩
  | plain c | escaped | unclosed inner | empty inner =>
    rw [Span.prepend_eq_prependLiteral rfl] at h
    exact absurd h (prependLiteral_ne_placeholder (by simp [Span.literal]) pieces)

/-- **The texts with one placeholder as their only piece** are those that are one placeholder and
nothing else. -/
theorem segments_eq_placeholder_iff {text expression : List Char} :
    segments text = [.placeholder expression] ↔ IsWhole expression text := by
  constructor
  · intro h
    rw [segments_eq_assemble] at h
    cases hspans : spans text with
    | nil =>
      rw [hspans] at h
      cases h
    | cons span rest =>
      rw [hspans, assemble_cons] at h
      -- The first span is the placeholder; a second span would have left a second piece.
      obtain ⟨hrest, inner, rfl, htrim⟩ := eq_placeholder_of_prepend h
      have htext := spans_text text
      rw [hspans, assemble_eq_nil_iff.mp hrest] at htext
      have hspan : Span.placeholder inner ∈ spans text := hspans ▸ List.mem_cons_self
      obtain ⟨hclosing, hne⟩ := wellFormed_of_mem_spans hspan
      rw [closing_infix_concat_iff, not_or] at hclosing
      refine ⟨inner, ?_, hclosing.1, hclosing.2, htrim, htrim ▸ hne⟩
      rw [← htext]
      simp [Span.text]
  · rintro ⟨raw, rfl, hwithin, hend, rfl, hne⟩
    exact segments_of_closing (closing_infix_concat_iff.not.mpr (not_or.mpr ⟨hwithin, hend⟩)) hne []

/-! ## No placeholder -/

theorem assemble_of_no_placeholder {spans : List Span}
    (h : ∀ span ∈ spans, span.expression? = none) :
    assemble spans = prependLiteral (spans.flatMap Span.literal) [] := by
  induction spans with
  | nil => rfl
  | cons span rest ih =>
    obtain ⟨hspan, hrest⟩ := List.forall_mem_cons.mp h
    rw [assemble_cons, Span.prepend_eq_prependLiteral hspan, ih hrest, ← prependLiteral_append,
      List.flatMap_cons]

/-- **A text without placeholders is the literal of its spans.** -/
theorem segments_of_no_placeholder {text : List Char} (h : placeholders text = []) :
    segments text = prependLiteral ((spans text).flatMap Span.literal) [] := by
  rw [placeholders_eq_spans, List.filterMap_eq_nil_iff] at h
  rw [segments_eq_assemble, assemble_of_no_placeholder h]

/-- A span of a text is a part of it. -/
theorem infix_of_mem_spans {text : List Char} {span : Span} (h : span ∈ spans text) :
    span.text <:+: text := by
  have hwithin := List.infix_of_mem_flatten (List.mem_map_of_mem (f := Span.text) h)
  rwa [← List.flatMap_def, spans_text] at hwithin

/-- A text without escapes is what its spans stand for. -/
theorem flatMap_literal_of_no_escape {text : List Char} (h : ¬ ['\\', '{', '{'] <:+: text) :
    (spans text).flatMap Span.literal = text := by
  have hliteral : (spans text).flatMap Span.literal = (spans text).flatMap Span.text := by
    refine List.flatMap_congr fun span hspan => Span.literal_eq_text ?_
    rintro rfl
    exact h (infix_of_mem_spans hspan)
  rw [hliteral, spans_text]

/-! ## No closing -/

/-- **A text with all its escapes undone**, from the left. -/
def unescape : List Char → List Char
  | [] => []
  | '\\' :: '{' :: '{' :: rest => '{' :: '{' :: unescape rest
  | c :: rest => c :: unescape rest

/-- **A text cut in front of the first opening that is not escaped**; without one, all of it is in
front. -/
def cutOpening : List Char → List Char × List Char
  | [] => ([], [])
  | '\\' :: '{' :: '{' :: rest => ('\\' :: '{' :: '{' :: (cutOpening rest).1, (cutOpening rest).2)
  | '{' :: '{' :: rest => ([], '{' :: '{' :: rest)
  | c :: rest => (c :: (cutOpening rest).1, (cutOpening rest).2)

/-- A character that begins no escape is kept. -/
theorem unescape_cons {c : Char} {rest : List Char} (h : c = '\\' → ¬ ['{', '{'] <+: rest) :
    unescape (c :: rest) = c :: unescape rest := by
  rw [unescape]
  rintro more rfl rfl
  exact h rfl ⟨more, rfl⟩

/-- No opening stands behind a backslash that begins no escape. -/
theorem opening_not_prefix_of_plain {c : Char} {rest : List Char}
    (h : ∀ more, c = '\\' → rest = '{' :: '{' :: more → False) :
    c = '\\' → ¬ ['{', '{'] <+: rest := by
  rintro hc ⟨more, hmore⟩
  exact h more hc hmore.symm

/-- The two parts are the text. -/
theorem cutOpening_append (text : List Char) : (cutOpening text).1 ++ (cutOpening text).2 = text := by
  fun_induction cutOpening text with
  | case1 => rfl
  | case2 rest ih => rw [List.cons_append, List.cons_append, List.cons_append, ih]
  | case3 rest => rfl
  | case4 c rest _ _ ih => rw [List.cons_append, ih]

/-- A character that begins no escape in a text begins none in its first part. -/
theorem unescape_cons_cutOpening {c : Char} {rest : List Char}
    (h : c = '\\' → ¬ ['{', '{'] <+: rest) :
    unescape (c :: (cutOpening rest).1) = c :: unescape (cutOpening rest).1 :=
  unescape_cons fun hc hopens => h hc (hopens.trans ⟨_, cutOpening_append rest⟩)

/-- Escapes are undone in both parts apart from each other. -/
theorem unescape_eq_append (text : List Char) :
    unescape text = unescape (cutOpening text).1 ++ unescape (cutOpening text).2 := by
  fun_induction cutOpening text with
  | case1 => rfl
  | case2 rest ih => rw [unescape, unescape, ih, List.cons_append, List.cons_append]
  | case3 rest => rfl
  | case4 c rest hescape _ ih =>
    have hrest := opening_not_prefix_of_plain hescape
    rw [unescape_cons hrest, unescape_cons_cutOpening hrest, ih, List.cons_append]

/-- **Only texts without escapes are left as they are.** -/
theorem unescape_eq_self_iff {text : List Char} :
    unescape text = text ↔ ¬ ['\\', '{', '{'] <:+: text := by
  fun_induction unescape text with
  | case1 => simp
  | case2 rest ih =>
    refine iff_of_false (fun heq => ?_) (not_not.mpr ⟨[], rest, rfl⟩)
    exact absurd (List.cons.inj heq).1 (by decide)
  | case3 c rest hescape ih =>
    have hfront : ¬ ['\\', '{', '{'] <+: c :: rest := by
      rintro ⟨more, hmore⟩
      obtain ⟨rfl, hrest⟩ := List.cons.inj hmore
      exact hescape more rfl hrest.symm
    rw [List.infix_cons_iff, not_or, and_iff_right hfront, ← ih]
    exact List.cons_inj_right c

/-- A text without a closing has no placeholder. -/
theorem placeholders_of_no_closing {text : List Char} (h : ¬ ['}', '}'] <:+: text) :
    placeholders text = [] := by
  rw [placeholders_eq_spans, List.filterMap_eq_nil_iff]
  intro span hspan
  cases span with
  | placeholder inner =>
    have hclosing : ['}', '}'] <:+: (Span.placeholder inner).text := ⟨'{' :: '{' :: inner, [], by
      simp [Span.text]⟩
    exact absurd (hclosing.trans (infix_of_mem_spans hspan)) h
  | plain c | escaped | unclosed inner | empty inner => rfl

/-- **Where nothing is closed, escapes are undone up to the first opening** that is not escaped itself,
and left behind it. -/
theorem flatMap_literal_of_no_closing {text : List Char} (h : ¬ ['}', '}'] <:+: text) :
    (spans text).flatMap Span.literal = unescape (cutOpening text).1 ++ (cutOpening text).2 := by
  -- Along the scan. Every opening it meets is unclosed, takes the rest with it and is where
  -- `cutOpening` cuts.
  fun_induction spans text with
  | case1 => rfl
  | case2 rest ih =>
    have hrest : ¬ ['}', '}'] <:+: rest := fun hwithin =>
      h (hwithin.trans (List.suffix_append ['\\', '{', '{'] rest).isInfix)
    rw [List.flatMap_cons, ih hrest]
    rfl
  | case3 rest hcut => simp [Span.literal, cutOpening, unescape]
  | case4 rest inner behind hcut ih =>
    have hclosing : ['}', '}'] <:+: rest :=
      ⟨inner, behind, by simp [eq_append_of_cutClosing hcut]⟩
    exact absurd (hclosing.trans (List.suffix_append ['{', '{'] rest).isInfix) h
  | case5 c rest hescape hopening ih =>
    have hrest : ¬ ['}', '}'] <:+: rest := fun hwithin =>
      h (hwithin.trans (List.suffix_cons c rest).isInfix)
    have hcut : cutOpening (c :: rest) = (c :: (cutOpening rest).1, (cutOpening rest).2) := by
      rw [cutOpening]
      · exact hescape
      · exact hopening
    rw [List.flatMap_cons, ih hrest, hcut,
      unescape_cons_cutOpening (opening_not_prefix_of_plain hescape)]
    rfl

end Template

end Runbook
