import Runbook.Json.Parser
import Runbook.Text.Octets

/-! # Escapes in the output of programs

A backslash and what follows it stand for a byte. Which escapes there are differs a little from
program to program. Texts are octet texts.

* **`EscapeRules`** — what differs.
* **`Escape.expand`** — the bytes of a text with escapes, and how it ends. -/

namespace Runbook

/-- Which escapes there are besides those of a letter. -/
structure EscapeRules where
  /-- Whether up to three digits of base eight are a byte without a zero before them. -/
  bareOctal : Bool
  /-- Whether a zero may stand before up to three digits of base eight. -/
  zeroOctal : Bool
  /-- Whether `x` and up to two digits of base sixteen are a byte. -/
  hexadecimal : Bool
  /-- Whether `u` or `U` and four or eight digits of base sixteen are a character. -/
  universal : Bool
  /-- Whether `x`, `u` or `U` without digits is a fault. -/
  strict : Bool
  /-- Whether `c` stops all output. -/
  stops : Bool
  /-- Whether a quote may be escaped. -/
  quotes : Bool
  /-- Whether a backslash that begins no escape keeps the next character from meaning anything. -/
  guards : Bool
  deriving DecidableEq, Repr

/-- How the expansion of a text ends. -/
inductive EscapeEnd where
  /-- With the text. -/
  | complete
  /-- With an escape that stops all output. -/
  | stopped
  /-- With an escape that lacks its digits. -/
  | faulty
  deriving DecidableEq, Repr

namespace Escape

/-- The byte that a letter stands for. -/
def letter? : Char → Option UInt8
  | '\\' => some 92
  | 'a' => some 7
  | 'b' => some 8
  | 'e' => some 27
  | 'f' => some 12
  | 'n' => some 10
  | 'r' => some 13
  | 't' => some 9
  | 'v' => some 11
  | _ => none

/-- Whether a character is a digit of base eight. -/
def isOctal (c : Char) : Bool := '0' ≤ c && c ≤ '7'

/-- Whether a character is a digit of base sixteen. -/
def isHexadecimal (c : Char) : Bool := (Text.hexValue? c).isSome

/-- The number that digits write in a base. -/
def number (base : Nat) (digits : List Char) : Nat :=
  digits.foldl (fun n c => n * base + (Text.hexValue? c).getD 0) 0

/-- At most `limit` characters at the start that pass a test. -/
def leading (limit : Nat) (test : Char → Bool) (text : List Char) : List Char :=
  (text.take limit).takeWhile test

/-- The byte of a character of an octet text. -/
def byteOf (c : Char) : UInt8 := UInt8.ofNat c.toNat

/-- What stands for a character by its number: itself in ASCII, and otherwise the escape, written
with the fewest of four or eight digits. -/
def universalBytes (code : Nat) : Bytes :=
  if code < 128 then [UInt8.ofNat code]
  else
    let digits := (Nat.toDigits 16 code).map Char.toUpper
    let (mark, size) := if code < 65536 then ('u', 4) else ('U', 8)
    ('\\' :: mark :: (List.replicate (size - digits.length) '0' ++ digits)).map byteOf

/-- The bytes of an escape whose backslash has been passed and how many characters it takes, or how it
ends the text. What is no escape stands for itself. -/
def read (rules : EscapeRules) (text : List Char) : Except EscapeEnd (Bytes × Nat) :=
  match text with
  | [] => .ok ([92], 0)
  | c :: rest =>
    if c == 'c' && rules.stops then .error .stopped
    else if c == '0' && rules.zeroOctal then
      let digits := leading 3 isOctal rest
      .ok ([UInt8.ofNat (number 8 digits)], digits.length + 1)
    else if isOctal c && rules.bareOctal then
      let digits := leading 3 isOctal (c :: rest)
      .ok ([UInt8.ofNat (number 8 digits)], digits.length)
    else if c == 'x' && rules.hexadecimal then
      let digits := leading 2 isHexadecimal rest
      if !digits.isEmpty then .ok ([UInt8.ofNat (number 16 digits)], digits.length + 1)
      else if rules.strict then .error .faulty
      else .ok ([92, 120], 1)
    else if (c == 'u' || c == 'U') && rules.universal then
      let size := if c == 'u' then 4 else 8
      let digits := leading size isHexadecimal rest
      if digits.length = size then .ok (universalBytes (number 16 digits), size + 1)
      else .error .faulty
    else if c == '"' && rules.quotes then .ok ([34], 1)
    else
      match letter? c with
      | some byte => .ok ([byte], 1)
      | none => if rules.guards then .ok ([92, byteOf c], 1) else .ok ([92], 0)

/-- The bytes of a text with escapes, and how it ends. -/
def expandFrom (rules : EscapeRules) : (fuel : Nat) → List Char → Bytes × EscapeEnd
  | 0, _ => ([], .complete)
  | _ + 1, [] => ([], .complete)
  | fuel + 1, '\\' :: rest =>
    match read rules rest with
    | .error ending => ([], ending)
    | .ok (bytes, length) =>
      let (more, ending) := expandFrom rules fuel (rest.drop length)
      (bytes ++ more, ending)
  | fuel + 1, c :: rest =>
    let (more, ending) := expandFrom rules fuel rest
    (byteOf c :: more, ending)

/-- The bytes of a text with escapes, and how it ends. -/
def expand (rules : EscapeRules) (text : String) : Bytes × EscapeEnd :=
  let chars := text.toList
  expandFrom rules chars.length chars

end Escape

end Runbook
