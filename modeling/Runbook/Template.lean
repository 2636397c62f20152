import Runbook.Text.Blank

/-! # Templates

A template is text with placeholders: a span between `{{` and the nearest `}}` after it stands for
the value of the expression inside. An opening with a backslash before it is plain text without
the backslash; an opening that is never closed, and a span that holds only blanks, are plain text.

* **`Segment`** — a piece of literal text or the expression of a placeholder.
* **`Template.segments`** — the pieces of a text, in order; neighbouring literal text is one piece.
* **`Template.placeholders`** — the expressions alone. -/

namespace Runbook

/-- A piece of a template. -/
inductive Segment where
  /-- Text that stands for itself. -/
  | literal (text : List Char)
  /-- The expression of a placeholder, without blanks at its ends. -/
  | placeholder (expression : List Char)
  deriving DecidableEq, Repr

namespace Template

/-- Puts a character in front of the pieces, into their first literal if they begin with one. -/
def consLiteral (c : Char) : List Segment → List Segment
  | .literal text :: rest => .literal (c :: text) :: rest
  | segments => .literal [c] :: segments

/-- Puts a text in front of the pieces, into their first literal if they begin with one. -/
def prependLiteral (text : List Char) (segments : List Segment) : List Segment :=
  text.foldr consLiteral segments

mutual

/-- The pieces of a text. -/
def segments : List Char → List Segment
  | [] => []
  | '\\' :: '{' :: '{' :: rest => prependLiteral ['{', '{'] (segments rest)
  | '{' :: '{' :: rest => segmentsInside [] rest
  | c :: rest => consLiteral c (segments rest)

/-- The pieces of an opening, the characters `inner` after it (held in reverse) and the text that
follows them. -/
def segmentsInside (inner : List Char) : List Char → List Segment
  | [] => prependLiteral ('{' :: '{' :: inner.reverse) []
  | '}' :: '}' :: rest =>
    let expression := Text.trim inner.reverse
    if expression.isEmpty then
      prependLiteral ('{' :: '{' :: (inner.reverse ++ ['}', '}'])) (segments rest)
    else .placeholder expression :: segments rest
  | c :: rest => segmentsInside (c :: inner) rest

end

/-- The expressions among pieces. -/
def expressions (pieces : List Segment) : List (List Char) :=
  pieces.filterMap fun
    | .literal _ => none
    | .placeholder expression => some expression

/-- The expressions of the placeholders of a text, in order. -/
def placeholders (text : List Char) : List (List Char) := expressions (segments text)

end Template

end Runbook
