import Runbook.Template

/-! # The spans of a text

The scanner hands out the pieces of a text with all plain text run together, so that one cannot see
any more where an escape or an empty span stood. Here the same text is cut into **spans** that lose
nothing, and the pieces are put together from them.

* **`Template.cutClosing`** — the text before and behind the nearest `}}`.
* **`Template.spans`** — the spans of a text; side by side they are the text again (`spans_text`).
* **`Template.segments_eq_assemble`** — the pieces of a text are those of its spans.
* **`Template.placeholders_eq_spans`** — the expressions of a text are those of its placeholder
  spans, in order; no other span has one. -/

namespace Runbook

/-- A stretch of text as the scanner reads it. -/
inductive Span where
  /-- A character that begins neither an opening nor an escape. -/
  | plain (c : Char)
  /-- An opening with a backslash before it. -/
  | escaped
  /-- An opening that is never closed, with all the text behind it. -/
  | unclosed (inner : List Char)
  /-- An opening and its closing with nothing but blanks between them. -/
  | empty (inner : List Char)
  /-- An opening and its closing with an expression between them. -/
  | placeholder (inner : List Char)
  deriving DecidableEq, Repr

namespace Span

/-- The text of a span. -/
def text : Span → List Char
  | .plain c => [c]
  | .escaped => ['\\', '{', '{']
  | .unclosed inner => '{' :: '{' :: inner
  | .empty inner | .placeholder inner => '{' :: '{' :: (inner ++ ['}', '}'])

/-- The expression of a span, which only a placeholder has. -/
def expression? : Span → Option (List Char)
  | .placeholder inner => some (Text.trim inner)
  | _ => none

/-- Puts what a span stands for in front of the pieces of the text behind it. -/
def prepend : Span → List Segment → List Segment
  | .plain c, pieces => Template.consLiteral c pieces
  | .escaped, pieces => Template.prependLiteral ['{', '{'] pieces
  | .unclosed inner, pieces => Template.prependLiteral ('{' :: '{' :: inner) pieces
  | .empty inner, pieces => Template.prependLiteral ('{' :: '{' :: (inner ++ ['}', '}'])) pieces
  | .placeholder inner, pieces => .placeholder (Text.trim inner) :: pieces

/-- What the kind of a span says about its text. -/
def WellFormed : Span → Prop
  | .plain _ | .escaped => True
  | .unclosed inner => ¬ ['}', '}'] <:+: inner
  | .empty inner => Text.trim inner = []
  | .placeholder inner => ¬ ['}', '}'] <:+: inner ++ ['}'] ∧ Text.trim inner ≠ []

end Span

namespace Template

/-! ## The nearest closing -/

/-- The text before the nearest `}}` and the text behind it. -/
def cutClosing : List Char → Option (List Char × List Char)
  | [] => none
  | '}' :: '}' :: rest => some ([], rest)
  | c :: rest => (cutClosing rest).map fun cut => (c :: cut.1, cut.2)

/-- A closing stands at the front of a text of at least two characters that begins with it. -/
theorem closing_prefix_cons_iff {c : Char} {text : List Char} :
    ['}', '}'] <+: c :: text ↔ c = '}' ∧ ∃ rest, text = '}' :: rest := by
  rw [List.cons_prefix_cons, eq_comm]
  refine and_congr_right fun _ => ?_
  cases text with
  | nil => simp
  | cons d rest => simp [List.cons_prefix_cons, eq_comm]

/-- No closing begins between two texts without one if what joins them is no brace. -/
theorem closing_not_infix_append {before after : List Char} {c : Char} (hc : c ≠ '}')
    (hbefore : ¬ ['}', '}'] <:+: before) (hafter : ¬ ['}', '}'] <:+: after) :
    ¬ ['}', '}'] <:+: before ++ c :: after := by
  induction before with
  | nil =>
    rw [List.nil_append, List.infix_cons_iff, closing_prefix_cons_iff]
    rintro (⟨hbrace, -⟩ | hwithin)
    · exact hc hbrace
    · exact hafter hwithin
  | cons d before ih =>
    rw [List.infix_cons_iff, not_or] at hbefore
    obtain ⟨hfront, hbefore⟩ := hbefore
    rw [List.cons_append, List.infix_cons_iff]
    rintro (hjoint | hwithin)
    · obtain ⟨hd, rest, hrest⟩ := closing_prefix_cons_iff.mp hjoint
      cases before with
      | nil => exact hc (List.cons.inj hrest).1
      | cons e before =>
        have he : e = '}' := (List.cons.inj hrest).1
        exact hfront (closing_prefix_cons_iff.mpr ⟨hd, before, by rw [he]⟩)
    · exact ih hbefore hwithin

/-- **A cut loses only the closing.** -/
theorem eq_append_of_cutClosing {text inner rest : List Char}
    (h : cutClosing text = some (inner, rest)) : text = inner ++ '}' :: '}' :: rest := by
  fun_induction cutClosing text generalizing inner with
  | case1 => exact absurd h (by simp)
  | case2 rest' =>
    simp only [Option.some.injEq, Prod.mk.injEq] at h
    rw [← h.1, ← h.2, List.nil_append]
  | case3 c text _ ih =>
    obtain ⟨⟨inner', rest'⟩, hcut, heq⟩ := Option.map_eq_some_iff.mp h
    simp only [Prod.mk.injEq] at heq
    rw [← heq.1, List.cons_append, ih (hcut.trans (by rw [heq.2]))]

/-- **A cut is made at the nearest closing**: none begins before it. -/
theorem not_infix_of_cutClosing {text inner rest : List Char}
    (h : cutClosing text = some (inner, rest)) : ¬ ['}', '}'] <:+: inner ++ ['}'] := by
  fun_induction cutClosing text generalizing inner with
  | case1 => exact absurd h (by simp)
  | case2 rest' =>
    simp only [Option.some.injEq, Prod.mk.injEq] at h
    rw [← h.1]
    decide
  | case3 c text hc ih =>
    obtain ⟨⟨inner', rest'⟩, hcut, heq⟩ := Option.map_eq_some_iff.mp h
    simp only [Prod.mk.injEq] at heq
    rw [← heq.1, List.cons_append, List.infix_cons_iff]
    rintro (hfront | hinfix)
    · -- a closing at the front of the inner text is one at the front of the whole text
      have htext := eq_append_of_cutClosing hcut
      have hlonger : inner' ++ ['}'] <+: text := ⟨'}' :: rest', by simp [htext]⟩
      obtain ⟨hbrace, more, hmore⟩ := closing_prefix_cons_iff.mp
        (hfront.trans (List.cons_prefix_cons.mpr ⟨rfl, hlonger⟩))
      exact hc more hbrace hmore
    · exact ih (hcut.trans (by rw [heq.2])) hinfix

/-- **Without a closing there is no cut.** -/
theorem cutClosing_eq_none_iff {text : List Char} :
    cutClosing text = none ↔ ¬ ['}', '}'] <:+: text := by
  fun_induction cutClosing text with
  | case1 => simp
  | case2 rest => simp [List.infix_cons_iff, List.cons_prefix_cons]
  | case3 c text hc ih =>
    rw [Option.map_eq_none_iff, ih, List.infix_cons_iff, closing_prefix_cons_iff]
    refine not_congr ⟨Or.inr, ?_⟩
    rintro (⟨hbrace, more, hmore⟩ | hinfix)
    · exact absurd hmore (hc more hbrace)
    · exact hinfix

/-- What lies behind a cut is shorter than the text. -/
theorem length_lt_of_cutClosing {text inner rest : List Char}
    (h : cutClosing text = some (inner, rest)) : rest.length < text.length := by
  rw [eq_append_of_cutClosing h]
  simp only [List.length_append, List.length_cons]
  omega

/-! ## The spans of a text -/

/-- The spans of a text, in order. -/
def spans : List Char → List Span
  | [] => []
  | '\\' :: '{' :: '{' :: rest => .escaped :: spans rest
  | '{' :: '{' :: rest =>
    match _h : cutClosing rest with
    | none => [.unclosed rest]
    | some (inner, behind) =>
      (if Text.trim inner = [] then .empty inner else .placeholder inner) :: spans behind
  | c :: rest => .plain c :: spans rest
termination_by text => text.length
decreasing_by
  all_goals try (simp only [List.length_cons]; omega)
  have := length_lt_of_cutClosing _h
  simp only [List.length_cons]
  omega

/-- **The spans of a text are the text**, cut up. -/
theorem spans_text (text : List Char) : (spans text).flatMap Span.text = text := by
  fun_induction spans text with
  | case1 => rfl
  | case2 rest ih => rw [List.flatMap_cons, ih]; rfl
  | case3 rest hcut => simp [Span.text]
  | case4 rest inner behind hcut ih =>
    rw [List.flatMap_cons, ih, eq_append_of_cutClosing hcut]
    split <;> simp [Span.text]
  | case5 c rest _ _ ih => rw [List.flatMap_cons, ih]; rfl

/-- **Every span is what its kind says**: an unclosed one holds no closing, an empty one only blanks,
and a placeholder ends at the nearest closing. -/
theorem wellFormed_of_mem_spans {text : List Char} {span : Span} (h : span ∈ spans text) :
    span.WellFormed := by
  fun_induction spans text with
  | case1 => exact absurd h List.not_mem_nil
  | case2 rest ih =>
    rcases List.mem_cons.mp h with rfl | h
    · trivial
    · exact ih h
  | case3 rest hcut =>
    rw [List.mem_singleton.mp h]
    exact cutClosing_eq_none_iff.mp hcut
  | case4 rest inner behind hcut ih =>
    rcases List.mem_cons.mp h with rfl | h
    · split
      · assumption
      · exact ⟨not_infix_of_cutClosing hcut, by assumption⟩
    · exact ih h
  | case5 c rest _ _ ih =>
    rcases List.mem_cons.mp h with rfl | h
    · trivial
    · exact ih h

/-! ## Pieces from spans -/

/-- The pieces that spans come to. -/
def assemble (spans : List Span) : List Segment := spans.foldr Span.prepend []

@[simp] theorem assemble_nil : assemble [] = [] := rfl

@[simp] theorem assemble_cons (span : Span) (rest : List Span) :
    assemble (span :: rest) = span.prepend (assemble rest) := rfl

/-- The scanner behind an opening looks for the nearest closing. -/
theorem segmentsInside_eq (inner text : List Char) :
    segmentsInside inner text =
      match cutClosing text with
      | none => prependLiteral ('{' :: '{' :: (inner.reverse ++ text)) []
      | some (more, behind) =>
        Span.prepend (if Text.trim (inner.reverse ++ more) = [] then .empty (inner.reverse ++ more)
          else .placeholder (inner.reverse ++ more)) (segments behind) := by
  fun_induction cutClosing text generalizing inner with
  | case1 => simp [segmentsInside]
  | case2 rest =>
    simp only [segmentsInside, List.append_nil, List.isEmpty_iff]
    split <;> rfl
  | case3 c text hc ih =>
    rw [segmentsInside, ih]
    · cases cutClosing text <;> simp
    · exact hc

/-- **The pieces of a text are those of its spans.** -/
theorem segments_eq_assemble (text : List Char) : segments text = assemble (spans text) := by
  fun_induction spans text with
  | case1 => rfl
  | case2 rest ih => rw [segments, ih]; rfl
  | case3 rest hcut => rw [segments, segmentsInside_eq, hcut]; rfl
  | case4 rest inner behind hcut ih =>
    rw [segments, segmentsInside_eq, hcut, assemble_cons, ← ih]
    rfl
  | case5 c rest hesc hopen ih =>
    rw [segments, ih]
    · rfl
    · exact hesc
    · exact hopen

/-! ## Expressions -/

/-- Plain text in front of pieces adds no expression. -/
@[simp] theorem expressions_consLiteral (c : Char) (pieces : List Segment) :
    expressions (consLiteral c pieces) = expressions pieces := by
  rcases pieces with _ | ⟨text | inner, rest⟩ <;> rfl

@[simp] theorem expressions_prependLiteral (text : List Char) (pieces : List Segment) :
    expressions (prependLiteral text pieces) = expressions pieces := by
  induction text with
  | nil => rfl
  | cons c text ih =>
    rw [prependLiteral, List.foldr_cons, expressions_consLiteral]
    exact ih

/-- A span adds its own expression, if it has one. -/
theorem expressions_prepend (span : Span) (pieces : List Segment) :
    expressions (span.prepend pieces) = span.expression?.toList ++ expressions pieces := by
  cases span with
  | plain c => exact expressions_consLiteral c pieces
  | escaped => exact expressions_prependLiteral _ pieces
  | unclosed inner => exact expressions_prependLiteral _ pieces
  | empty inner => exact expressions_prependLiteral _ pieces
  | placeholder inner => rfl

/-- **The expressions of a text are those of its placeholder spans**, in order. -/
theorem placeholders_eq_spans (text : List Char) :
    placeholders text = (spans text).filterMap Span.expression? := by
  rw [placeholders, segments_eq_assemble]
  induction spans text with
  | nil => rfl
  | cons span rest ih =>
    rw [assemble_cons, expressions_prepend, ih, List.filterMap_cons]
    cases span.expression? <;> rfl

end Template

end Runbook
