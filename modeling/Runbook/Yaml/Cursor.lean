/-! # Places in a YAML text

* **`Mark`** — a line and a column.
* **`Cursor`** — what is left of a text, and in which line and column that begins.
* **`isBreak`**, **`isGapChar`** — the characters that end lines and those that separate words. -/

namespace Runbook.Yaml

/-- A place in a text. -/
structure Mark where
  /-- How many lines end before it. -/
  line : Nat
  /-- How many characters of its line stand before it. -/
  column : Nat
  deriving DecidableEq, Repr

namespace Mark

/-- The beginning of a text. -/
def start : Mark := ⟨0, 0⟩

/-- Where a place is, for an error. Of the beginning of a text nothing is said. -/
def phrase (mark : Mark) : String :=
  if mark = start then ""
  else " at line " ++ toString (mark.line + 1) ++ " column " ++ toString (mark.column + 1)

end Mark

/-- The character that stands for the end of a text; no text holds it. -/
def endMark : Char := '\x00'

/-- Whether a character ends a line. -/
def isBreak (c : Char) : Bool :=
  c == '\n' || c == '\r' || c == '\u0085' || c == '\u2028' || c == '\u2029'

/-- Whether a character is a space or a tab. -/
def isGapChar (c : Char) : Bool := c == ' ' || c == '\t'

/-- Whether a line ends at a character, or the text. -/
def isBreakOrEnd (c : Char) : Bool := isBreak c || c == endMark

/-- Whether a word ends at a character. -/
def endsWord (c : Char) : Bool := isGapChar c || isBreakOrEnd c

/-- Whether a character can stand in the name of an anchor. -/
def isNamePart (c : Char) : Bool := c.isAlphanum || c == '_' || c == '-'

/-- Whether a character may stand in a text at all. -/
def isPrintable (c : Char) : Bool :=
  let n := c.toNat
  n == 0x09 || n == 0x0A || n == 0x0D || (0x20 ≤ n && n ≤ 0x7E) || n == 0x85
    || (0xA0 ≤ n && n ≤ 0xD7FF) || (0xE000 ≤ n && n ≤ 0xFFFD) || 0x10000 ≤ n

/-- What is left of a text, and where that is. -/
structure Cursor where
  /-- The characters that are left. -/
  rest : List Char
  /-- How many bytes stand before them, in UTF-8. -/
  index : Nat
  /-- How many lines end before them. -/
  line : Nat
  /-- How many characters of the line stand before them. -/
  column : Nat

namespace Cursor

/-- How many bytes characters take in UTF-8. -/
def byteCount (text : List Char) : Nat := text.foldl (fun count c => count + c.utf8Size) 0

/-- The beginning of a text. -/
def start (text : List Char) : Cursor := ⟨text, 0, 0, 0⟩

/-- The place of a cursor. -/
def mark (cursor : Cursor) : Mark := ⟨cursor.line, cursor.column⟩

/-- The character that is `offset` characters ahead, or the end mark. -/
def ahead (cursor : Cursor) (offset : Nat) : Char := cursor.rest.getD offset endMark

/-- The next character, or the end mark. -/
def next (cursor : Cursor) : Char := cursor.rest.headD endMark

/-- Passes over characters none of which ends a line. -/
def advance (cursor : Cursor) (count : Nat) : Cursor :=
  { cursor with
    rest := cursor.rest.drop count
    index := cursor.index + byteCount (cursor.rest.take count)
    column := cursor.column + count }

/-- Passes over the characters before the first that fails a test; none of them ends a line. -/
def skipWhile (cursor : Cursor) (test : Char → Bool) : Cursor :=
  cursor.advance (cursor.rest.takeWhile test).length

/-- Passes over the end of a line; a carriage return and the line feed after it are one. -/
def skipBreak (cursor : Cursor) : Cursor :=
  match cursor.rest with
  | '\r' :: '\n' :: rest => ⟨rest, cursor.index + 2, cursor.line + 1, 0⟩
  | c :: rest =>
    if isBreak c then ⟨rest, cursor.index + c.utf8Size, cursor.line + 1, 0⟩ else cursor
  | [] => cursor

/-- The text of the line end that stands next: the two separators of Unicode stand for themselves
and every other line end is a line feed. -/
def breakText (cursor : Cursor) : List Char :=
  let c := cursor.next
  if c == '\u2028' || c == '\u2029' then [c] else if isBreak c then ['\n'] else []

/-- Whether a line begins here that only marks the start or the end of a document, by three equal
characters. -/
def atMarker (cursor : Cursor) (c : Char) : Bool :=
  cursor.column == 0 && cursor.ahead 0 == c && cursor.ahead 1 == c && cursor.ahead 2 == c
    && endsWord (cursor.ahead 3)

/-- Whether a document starts or ends at the line that begins here. -/
def atDocumentMarker (cursor : Cursor) : Bool := cursor.atMarker '-' || cursor.atMarker '.'

end Cursor

end Runbook.Yaml
