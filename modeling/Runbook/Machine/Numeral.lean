import Runbook.Machine.Escape

/-! # Numerals

How programs read the integers in their arguments. Texts are octet texts.

* **`Numeral.read`** — the integer at the start of a text, and what follows it.
* **`Numeral.inReach`** — an integer as one of 64 bits. -/

namespace Runbook.Numeral

/-- The digits in which an integer is written. -/
inductive Base where
  /-- Ten. -/
  | ten
  /-- Sixteen after `0x`, two after `0b`, eight after another zero, and otherwise ten. -/
  | marked
  deriving DecidableEq, Repr

/-- Whether a character is a blank before a number. -/
def isBlank (c : Char) : Bool := c == ' ' || ('\t' ≤ c && c ≤ '\r')

/-- The base of digits behind a sign, and the digits. -/
def Base.start (base : Base) (text : List Char) : Nat × List Char :=
  match base, text with
  | .marked, '0' :: 'x' :: c :: rest | .marked, '0' :: 'X' :: c :: rest =>
    if Escape.isHexadecimal c then (16, c :: rest) else (8, text)
  | .marked, '0' :: 'b' :: c :: rest | .marked, '0' :: 'B' :: c :: rest =>
    if c == '0' || c == '1' then (2, c :: rest) else (8, text)
  | .marked, '0' :: _ => (8, text)
  | _, _ => (10, text)

/-- The integer at the start of a text, and what follows it. Without digits nothing is read. -/
def read (base : Base) (text : List Char) : Int × List Char :=
  let (negative, body) := match text.dropWhile isBlank with
    | '-' :: rest => (true, rest)
    | '+' :: rest => (false, rest)
    | rest => (false, rest)
  let (base, digits) := base.start body
  let isDigit (c : Char) : Bool := (Text.hexValue? c).any (· < base)
  let found := digits.takeWhile isDigit
  if found.isEmpty then (0, text)
  else
    let size : Int := Escape.number base found
    (if negative then -size else size, digits.dropWhile isDigit)

/-- A number brought into reach, and whether it was out of reach: it becomes the nearest number within
reach, or the greatest where there are no signs. -/
def inReach (signed : Bool) (n : Int) : Int × Bool :=
  if signed then
    let limit : Int := Nat.pow 2 63
    if n < -limit then (-limit, true)
    else if limit ≤ n then (limit - 1, true)
    else (n, false)
  else
    let limit : Int := Nat.pow 2 64
    if n ≤ -limit ∨ limit ≤ n then (limit - 1, true) else (n, false)

/-- The integer that a whole text writes, if it does and it is within reach. Blanks may stand around it.
In base ten there must be digits. -/
def whole? (base : Base) (text : String) : Option Int :=
  let chars := text.toList
  let (n, rest) := read base chars
  let (n, outOfReach) := inReach true n
  if outOfReach || (base = .ten && rest.length = chars.length) || !rest.all isBlank then none
  else some n

/-- The natural number that a whole text writes, if it does. -/
def natural? (text : String) : Option Nat := do
  let n ← whole? .ten text
  if 0 ≤ n ∧ n < 2147483648 then some n.toNat else none

end Runbook.Numeral
