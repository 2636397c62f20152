import Runbook.Json.Parser
import Runbook.Yaml.Fault
import Runbook.Yaml.Token

/-! # YAML anchors, tags and directives

How the tokens are read that name things rather than hold data.

* **`Name.read`** — the name of an anchor or an alias.
* **`Name.tag`** — a tag.
* **`Name.directive`** — a directive line. -/

namespace Runbook.Yaml.Name

/-- The name of an anchor or an alias that begins at a cursor; it ends at a blank or at punctuation. -/
def read (activity : Activity) (cursor : Cursor) : Except Fault (String × Cursor) :=
  let start := cursor.mark
  let cursor := cursor.advance 1
  let name := cursor.rest.takeWhile isNamePart
  let cursor := cursor.advance name.length
  if !name.isEmpty && (endsWord cursor.next || "?:,]\x7d%@`".toList.contains cursor.next) then
    .ok (String.ofList name, cursor)
  else .error (cursor.fault .noName activity start)

/-! ### Tags -/

/-- Whether a character can stand in a tag; a bracketed one also holds commas and brackets. -/
def isTagPart (bracketed : Bool) (c : Char) : Bool :=
  isNamePart c || ";/?:@&=+$.%!~*'()".toList.contains c
    || (bracketed && (c == ',' || c == '[' || c == ']'))

/-- How many bytes follow a byte that begins a UTF-8 sequence. -/
def trailingCount? (octet : Nat) : Option Nat :=
  if octet < 0x80 then some 0
  else if 0xC0 ≤ octet ∧ octet < 0xE0 then some 1
  else if 0xE0 ≤ octet ∧ octet < 0xF0 then some 2
  else if 0xF0 ≤ octet ∧ octet < 0xF8 then some 3
  else none

/-- The byte of the escape at the start of a text, a percent sign and two digits of base sixteen. -/
def octet? : List Char → Option Nat
  | '%' :: a :: b :: _ => do
    let high ← Text.hexValue? a
    let low ← Text.hexValue? b
    some (16 * high + low)
  | _ => none

/-- Reads escapes of bytes that go on with a character. -/
def trailingOctets (activity : Activity) (start : Mark) :
    (count : Nat) → (found : List Nat) → Cursor → Except Fault (List Nat × Cursor)
  | 0, found, cursor => .ok (found, cursor)
  | count + 1, found, cursor =>
    match octet? cursor.rest with
    | none => .error (cursor.fault .noOctet activity start)
    | some octet =>
      if 0x80 ≤ octet ∧ octet < 0xC0 then
        trailingOctets activity start count (found ++ [octet]) (cursor.advance 3)
      else .error (cursor.fault .badTrailingOctet activity start)

/-- The character that the escapes at a cursor stand for, and the cursor behind them. -/
def escaped (activity : Activity) (start : Mark) (cursor : Cursor) :
    Except Fault (List Char × Cursor) :=
  match octet? cursor.rest with
  | none => .error (cursor.fault .noOctet activity start)
  | some first =>
    match trailingCount? first with
    | none => .error (cursor.fault .badLeadingOctet activity start)
    | some count => do
      let (octets, behind) ← trailingOctets activity start count [first] (cursor.advance 3)
      match String.fromUTF8? ⟨(octets.map UInt8.ofNat).toArray⟩ with
      | some decoded => .ok (decoded.toList, behind)
      | none => .error (cursor.fault .badTrailingOctet activity start)

/-- Reads the characters of a tag, in which a percent sign begins an escape. -/
def tagText (bracketed : Bool) (activity : Activity) (start : Mark) :
    (fuel : Nat) → (found : List Char) → Cursor → Except Fault (List Char × Cursor)
  | 0, found, cursor => .ok (found, cursor)
  | fuel + 1, found, cursor =>
    if cursor.next == '%' then do
      let (text, cursor) ← escaped activity start cursor
      tagText bracketed activity start fuel (found ++ text) cursor
    else if isTagPart bracketed cursor.next then
      tagText bracketed activity start fuel (found ++ [cursor.next]) (cursor.advance 1)
    else .ok (found, cursor)

/-- The characters of a tag after `head`, which counts as some of them. -/
def tagRest (bracketed : Bool) (activity : Activity) (start : Mark) (head : List Char)
    (cursor : Cursor) : Except Fault (List Char × Cursor) := do
  let (text, cursor) ← tagText bracketed activity start (cursor.rest.length + 1) [] cursor
  if head.isEmpty && text.isEmpty then .error (cursor.fault .noTagText activity start)
  else .ok (head.drop 1 ++ text, cursor)

/-- The handle at a cursor: an exclamation mark, a name, and another exclamation mark if there is
one. -/
def handle (activity : Activity) (start : Mark) (cursor : Cursor) :
    Except Fault (List Char × Cursor) :=
  if cursor.next != '!' then .error (cursor.fault .noExclamation activity start)
  else
    let name := (cursor.rest.drop 1).takeWhile isNamePart
    let cursor := cursor.advance (name.length + 1)
    if cursor.next == '!' then .ok ('!' :: name ++ ['!'], cursor.advance 1)
    else .ok ('!' :: name, cursor)

/-- Whether a handle ends with an exclamation mark of its own. -/
def isClosed (handle : List Char) : Bool := 2 ≤ handle.length && handle.getLast? == some '!'

/-- The tag at a cursor: in angle brackets, after a handle, or after an exclamation mark. The sole
exclamation mark has no handle. -/
def tag (flow : Bool) (cursor : Cursor) : Except Fault (Token × Cursor) := do
  let start := cursor.mark
  let (token, cursor) ←
    if cursor.ahead 1 == '<' then do
      let (text, cursor) ← tagRest true .tagText start [] (cursor.advance 2)
      if cursor.next == '>' then
        Except.ok (Token.tag "" (String.ofList text), cursor.advance 1)
      else .error (cursor.fault .noClosingAngle .tag start)
    else do
      let (handle, cursor) ← handle .tag start cursor
      if isClosed handle then
        let (suffix, cursor) ← tagRest false .tagText start [] cursor
        .ok (Token.tag (String.ofList handle) (String.ofList suffix), cursor)
      else
        let (suffix, cursor) ← tagRest false .tagText start handle cursor
        if suffix.isEmpty then .ok (Token.tag "" "!", cursor)
        else .ok (Token.tag "!" (String.ofList suffix), cursor)
  if endsWord cursor.next || (flow && cursor.next == ',') then .ok (token, cursor)
  else .error (cursor.fault .noBlankOrBreak .tag start)

/-! ### Directives -/

/-- A number of at most nine digits. -/
def number (start : Mark) (cursor : Cursor) : Except Fault (Nat × Cursor) :=
  let digits := cursor.rest.takeWhile Char.isDigit
  if digits.isEmpty then .error (cursor.fault .noVersion .version start)
  else if 9 < digits.length then .error ((cursor.advance 9).fault .longVersion .version start)
  else .ok (digits.foldl (fun n c => 10 * n + (c.toNat - 48)) 0, cursor.advance digits.length)

/-- The version in a directive. -/
def version (start : Mark) (cursor : Cursor) : Except Fault (Token × Cursor) := do
  let (major, cursor) ← number start (cursor.skipWhile isGapChar)
  if cursor.next == '.' then
    let (minor, cursor) ← number start (cursor.advance 1)
    .ok (.version major minor, cursor)
  else .error (cursor.fault .noVersionDot .version start)

/-- The handle in a directive and what it abbreviates. -/
def abbreviation (start : Mark) (cursor : Cursor) : Except Fault (Token × Cursor) := do
  let (handle, cursor) ← handle .declaredHandle start (cursor.skipWhile isGapChar)
  if !(isClosed handle || handle = ['!']) then
    .error (cursor.fault .noExclamation .declaredHandleEnd start)
  else if !isGapChar cursor.next then .error (cursor.fault .noBlank .abbreviation start)
  else
    let (text, cursor) ← tagRest true .expansion start [] (cursor.skipWhile isGapChar)
    if endsWord cursor.next then
      .ok (.abbreviation (String.ofList handle) (String.ofList text), cursor)
    else .error (cursor.fault .noBlankOrBreak .abbreviation start)

/-- The directive whose percent sign stands at a cursor, and the next line. -/
def directive (cursor : Cursor) : Except Fault (Token × Cursor) := do
  let start := cursor.mark
  let cursor := cursor.advance 1
  let name := cursor.rest.takeWhile isNamePart
  let cursor := cursor.advance name.length
  if name.isEmpty then .error (cursor.fault .noDirectiveName .directive start)
  else if !endsWord cursor.next then .error (cursor.fault .badDirectiveName .directive start)
  else
    let (token, cursor) ←
      if name = "YAML".toList then version start cursor
      else if name = "TAG".toList then abbreviation start cursor
      else .error (cursor.fault .unknownDirective .directive start)
    let cursor := cursor.skipWhile isGapChar
    let cursor :=
      if cursor.next == '#' then cursor.skipWhile fun c => !isBreakOrEnd c else cursor
    if isBreakOrEnd cursor.next then .ok (token, cursor.skipBreak)
    else .error (cursor.fault .noLineEnd .directive start)

end Runbook.Yaml.Name
