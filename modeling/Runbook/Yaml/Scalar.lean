import Runbook.Json.Parser
import Runbook.Yaml.Fault

/-! # The texts of YAML scalars

How plain, quoted and block scalars are read.

* **`Gap`** — the blanks and line ends between two words, and the text that they fold to.
* **`Scalar.plain`**, **`Scalar.quoted`**, **`Scalar.block`** — the text of a scalar that begins at a
  cursor, and the cursor behind it. -/

namespace Runbook.Yaml

/-- The blanks and line ends between two words of a scalar. -/
structure Gap where
  /-- The blanks before the first line end. -/
  blanks : List Char
  /-- Whether a line ends in the gap. -/
  broken : Bool
  /-- The text of the first line end; an escaped one has none. -/
  firstBreak : List Char
  /-- The texts of the further line ends. -/
  moreBreaks : List Char

namespace Gap

/-- The gap in which nothing stands. -/
def none : Gap := ⟨[], false, [], []⟩

/-- The text of a gap. Within a line it is the blanks themselves; a single line feed is a space, and
of several the first is dropped. -/
def fold (gap : Gap) : List Char :=
  if !gap.broken then gap.blanks
  else if gap.firstBreak = ['\n'] then
    if gap.moreBreaks.isEmpty then [' '] else gap.moreBreaks
  else gap.firstBreak ++ gap.moreBreaks

/-- Reads on in a gap. A tab in a later line must not stand left of a margin, where there is one, in
the scalar that begins at a mark; `fuel` is at least the number of characters that are left. -/
def read (margin : Nat) (start : Mark) : (fuel : Nat) → Gap → Cursor → Except Fault (Gap × Cursor)
  | 0, gap, cursor => .ok (gap, cursor)
  | fuel + 1, gap, cursor =>
    let c := cursor.next
    if isGapChar c then
      if gap.broken && c == '\t' && cursor.column < margin then
        .error (cursor.fault .misindentedTab .plainScalar start)
      else if gap.broken then read margin start fuel gap (cursor.advance 1)
      else read margin start fuel { gap with blanks := gap.blanks ++ [c] } (cursor.advance 1)
    else if isBreak c then
      let text := cursor.breakText
      if gap.broken then
        read margin start fuel { gap with moreBreaks := gap.moreBreaks ++ text } cursor.skipBreak
      else read margin start fuel ⟨[], true, text, []⟩ cursor.skipBreak
    else .ok (gap, cursor)

end Gap

namespace Scalar

/-! ### Plain scalars -/

/-- The characters that delimit the entries of a collection in brackets or braces. -/
def isFlowMark (c : Char) : Bool := c == ',' || c == '[' || c == ']' || c == '{' || c == '}'

/-- The word of a plain scalar at the start of a text, and whether a colon stands behind it that may
not. It ends at a blank, at a colon before a blank and, within brackets or braces, at their marks,
before which no colon may stand there. -/
def plainWord (flow : Bool) : List Char → List Char × Bool
  | [] => ([], false)
  | c :: rest =>
    let after := rest.headD endMark
    if endsWord c then ([], false)
    else if flow && c == ':' && (isFlowMark after || after == '?') then ([], true)
    else if (c == ':' && endsWord after) || (flow && isFlowMark c) then ([], false)
    else
      let (word, crowded) := plainWord flow rest
      (c :: word, crowded)

/-- Reads the words of a plain scalar after what was found of it and the gap behind that. Gives the
text, whether a line end was passed behind it, and the cursor. -/
def plainWords (flow : Bool) (margin : Nat) (start : Mark) :
    (fuel : Nat) → (found : List Char) → Gap → Cursor → Except Fault (List Char × Bool × Cursor)
  | 0, found, gap, cursor => .ok (found, gap.broken, cursor)
  | fuel + 1, found, gap, cursor =>
    -- a number sign begins a comment only here, behind a gap
    if cursor.atDocumentMarker || cursor.next == '#' then .ok (found, gap.broken, cursor)
    else
      let (word, crowded) := plainWord flow cursor.rest
      if crowded then .error ((cursor.advance word.length).fault .crowdedColon .plainScalar start)
      else if word.isEmpty then .ok (found, gap.broken, cursor)
      else
        let found := found ++ gap.fold ++ word
        let cursor := cursor.advance word.length
        if !(isGapChar cursor.next || isBreak cursor.next) then .ok (found, false, cursor)
        else do
          let (gap, cursor) ← Gap.read margin start cursor.rest.length .none cursor
          -- a line that is indented less belongs to something else
          if !flow && cursor.column < margin then .ok (found, gap.broken, cursor)
          else plainWords flow margin start fuel found gap cursor

/-- The plain scalar that begins at a cursor; its further lines begin at the column `margin` or
right of it. -/
def plain (flow : Bool) (margin : Nat) (cursor : Cursor) :
    Except Fault (String × Bool × Cursor) := do
  let (text, broken, cursor) ←
    plainWords flow margin cursor.mark (cursor.rest.length + 1) [] .none cursor
  .ok (String.ofList text, broken, cursor)

/-! ### Quoted scalars -/

/-- The character that a one-letter escape stands for. -/
def escape? : Char → Option Char
  | '0' => some '\x00'
  | 'a' => some '\x07'
  | 'b' => some '\x08'
  | 't' | '\t' => some '\t'
  | 'n' => some '\n'
  | 'v' => some '\x0b'
  | 'f' => some '\x0c'
  | 'r' => some '\r'
  | 'e' => some '\x1b'
  | ' ' => some ' '
  | '"' => some '"'
  | '/' => some '/'
  | '\\' => some '\\'
  | 'N' => some '\u0085'
  | '_' => some '\u00a0'
  | 'L' => some '\u2028'
  | 'P' => some '\u2029'
  | _ => none

/-- How many digits of base sixteen follow the letter of an escape by number. -/
def escapeDigits? : Char → Option Nat
  | 'x' => some 2
  | 'u' => some 4
  | 'U' => some 8
  | _ => none

/-- The character of an escape by number. -/
def escapeNumber? (digits : List Char) : Option Char := do
  let values ← digits.mapM Text.hexValue?
  let code := values.foldl (fun total value => total * 16 + value) 0
  if (0xD800 ≤ code ∧ code ≤ 0xDFFF) ∨ 0x10FFFF < code then none else some (Char.ofNat code)

/-- Reads characters of a quoted scalar up to a blank, a line end or the closing quote. Gives the
text, the cursor, and whether an escaped line end was passed last. -/
def quotedWord (single : Bool) (start : Mark) : (fuel : Nat) → (found : List Char) → Cursor →
    Except Fault (List Char × Cursor × Bool)
  | 0, found, cursor => .ok (found, cursor, false)
  | fuel + 1, found, cursor =>
    let c := cursor.next
    let after := cursor.ahead 1
    if endsWord c then .ok (found, cursor, false)
    -- a quote that is written twice stands for one
    else if single && c == '\'' && after == '\'' then
      quotedWord single start fuel (found ++ [c]) (cursor.advance 2)
    else if c == (if single then '\'' else '"') then .ok (found, cursor, false)
    else if !single && c == '\\' then
      -- an escaped line end joins two lines without a space
      if isBreak after then .ok (found, (cursor.advance 1).skipBreak, true)
      else
        match escape? after, escapeDigits? after with
        | some plain, _ => quotedWord single start fuel (found ++ [plain]) (cursor.advance 2)
        | none, some count =>
          let digits := (cursor.rest.drop 2).take count
          if digits.length < count || !digits.all fun c => (Text.hexValue? c).isSome then
            .error ((cursor.advance 2).fault .noEscapeDigits .escape start)
          else
            match escapeNumber? digits with
            | some plain =>
              quotedWord single start fuel (found ++ [plain]) (cursor.advance (2 + count))
            | none => .error ((cursor.advance 2).fault .badEscapeCode .escape start)
        | none, none => .error (cursor.fault .unknownEscape .escape start)
    else quotedWord single start fuel (found ++ [c]) (cursor.advance 1)

/-- Reads the lines of a quoted scalar after what was found of it. -/
def quotedLines (single : Bool) (start : Mark) : (fuel : Nat) → (found : List Char) → Cursor →
    Except Fault (List Char × Cursor)
  | 0, _, cursor => .error (cursor.fault .unclosedQuote .quotedScalar start)
  | fuel + 1, found, cursor =>
    if cursor.atDocumentMarker then .error (cursor.fault .quotedMarker .quotedScalar start)
    else if cursor.rest.isEmpty then .error (cursor.fault .unclosedQuote .quotedScalar start)
    else do
      let (found, cursor, escaped) ← quotedWord single start (cursor.rest.length + 1) found cursor
      if cursor.next == (if single then '\'' else '"') then .ok (found, cursor.advance 1)
      else
        let (gap, cursor) ← Gap.read 0 start cursor.rest.length ⟨[], escaped, [], []⟩ cursor
        quotedLines single start fuel (found ++ gap.fold) cursor

/-- The quoted scalar whose opening quote stands at a cursor. -/
def quoted (single : Bool) (cursor : Cursor) : Except Fault (String × Cursor) := do
  let (text, cursor) ← quotedLines single cursor.mark (cursor.rest.length + 1) [] (cursor.advance 1)
  .ok (String.ofList text, cursor)

/-! ### Block scalars -/

/-- What becomes of the line ends behind the last line of a block scalar. -/
inductive Chomping where
  /-- None is kept. -/
  | strip
  /-- The first is kept. -/
  | clip
  /-- All are kept. -/
  | keep
  deriving DecidableEq, Repr

/-- The chomping that a character of the heading asks for. -/
def chomping? : Char → Option Chomping
  | '-' => some .strip
  | '+' => some .keep
  | _ => none

/-- The part of a heading that says how far the lines are indented: no digit, or one from 1 on. -/
def indentation (start : Mark) (cursor : Cursor) : Except Fault (Nat × Cursor) :=
  let c := cursor.next
  if c == '0' then .error (cursor.fault .zeroIndentation .blockScalar start)
  else if c.isDigit then .ok (c.toNat - 48, cursor.advance 1)
  else .ok (0, cursor)

/-- The heading of a block scalar behind its first character: a chomping and an indentation, in
either order, of which each may be missing, then a comment or nothing. -/
def heading (start : Mark) (cursor : Cursor) : Except Fault (Chomping × Nat × Cursor) := do
  let (chomping, digit, cursor) ← match chomping? cursor.next with
    | some chomping => do
      let (digit, cursor) ← indentation start (cursor.advance 1)
      Except.ok (chomping, digit, cursor)
    | none => do
      let (digit, cursor) ← indentation start cursor
      match if digit = 0 then none else chomping? cursor.next with
      | some chomping => .ok (chomping, digit, cursor.advance 1)
      | none => .ok (.clip, digit, cursor)
  let cursor := cursor.skipWhile isGapChar
  let cursor :=
    if cursor.next == '#' then cursor.skipWhile fun c => !isBreakOrEnd c else cursor
  if isBreakOrEnd cursor.next then .ok (chomping, digit, cursor.skipBreak)
  else .error (cursor.fault .noLineEnd .blockScalar start)

/-- Passes over empty lines and the indentation of the line behind them. With `indent` zero any
number of spaces is one. Gives the texts of the line ends, the greatest column that was reached, and
the cursor. -/
def emptyLines (indent : Nat) (start : Mark) : (fuel : Nat) → (breaks : List Char) →
    (widest : Nat) → Cursor → Except Fault (List Char × Nat × Cursor)
  | 0, breaks, widest, cursor => .ok (breaks, widest, cursor)
  | fuel + 1, breaks, widest, cursor =>
    let spaces := (cursor.rest.takeWhile (· == ' ')).length
    let cursor :=
      cursor.advance (if indent = 0 then spaces else min spaces (indent - cursor.column))
    let widest := max widest cursor.column
    if (indent = 0 || cursor.column < indent) && cursor.next == '\t' then
      .error (cursor.fault .tabIndentation .blockScalar start)
    else if isBreak cursor.next then
      emptyLines indent start fuel (breaks ++ cursor.breakText) widest cursor.skipBreak
    else .ok (breaks, widest, cursor)

/-- Reads the lines of a block scalar that is indented by `indent` spaces: `found` is the text of
the earlier lines, `lastBreak` the end of the last one, `breaks` the empty lines behind that, and
`blankStart` says whether it began with a blank. Folding joins two lines unless one of them begins
with a blank. -/
def blockLines (folded : Bool) (indent : Nat) (start : Mark) : (fuel : Nat) →
    (found lastBreak breaks : List Char) → (blankStart : Bool) → Cursor →
    Except Fault (List Char × List Char × List Char × Cursor)
  | 0, found, lastBreak, breaks, _, cursor => .ok (found, lastBreak, breaks, cursor)
  | fuel + 1, found, lastBreak, breaks, blankStart, cursor =>
    if cursor.column ≠ indent ∨ cursor.rest.isEmpty then .ok (found, lastBreak, breaks, cursor)
    else do
      -- lines that begin with a blank are kept apart from their neighbours
      let blank := isGapChar cursor.next
      let joint :=
        if folded && lastBreak == ['\n'] && !blankStart && !blank then
          if breaks.isEmpty then [' '] else []
        else lastBreak
      let line := cursor.rest.takeWhile fun c => !isBreakOrEnd c
      let cursor := cursor.advance line.length
      let lastBreak := cursor.breakText
      let found := found ++ joint ++ breaks ++ line
      let cursor := cursor.skipBreak
      let (breaks, _, cursor) ← emptyLines indent start (cursor.rest.length + 1) [] 0 cursor
      blockLines folded indent start fuel found lastBreak breaks blank cursor

/-- The block scalar whose heading begins at a cursor. Its lines are indented as the heading says,
counted from the surrounding column, or as its first line is, and always by more than that column. -/
def block (folded : Bool) (surrounding : Int) (cursor : Cursor) :
    Except Fault (String × Cursor) := do
  let start := cursor.mark
  let (chomping, digit, cursor) ← heading start (cursor.advance 1)
  let given := if digit = 0 then 0 else (max surrounding 0).toNat + digit
  let (breaks, widest, cursor) ← emptyLines given start (cursor.rest.length + 1) [] 0 cursor
  -- without a digit in the heading, the first line that is not empty sets the indentation
  let indent := if given = 0 then max widest (max (surrounding + 1).toNat 1) else given
  let (text, lastBreak, breaks, cursor) ←
    blockLines folded indent start (cursor.rest.length + 1) [] [] breaks false cursor
  let tail := match chomping with
    | .strip => []
    | .clip => lastBreak
    | .keep => lastBreak ++ breaks
  .ok (String.ofList (text ++ tail), cursor)

end Scalar

end Runbook.Yaml
