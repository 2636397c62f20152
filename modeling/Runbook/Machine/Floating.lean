import Runbook.Decimal.Binary64
import Runbook.Json.Parser

/-! # Floating point numbers in arguments and formats

Programs read arguments as binary numbers of a limited size and write them in the forms that formats
ask for. All roundings go to the nearest number, ties to the even one.

* **`FloatFormat`** — how large the numbers of a program are.
* **`Floating`** — a number, which may be infinite or none at all.
* **`Floating.parse`** — the number at the start of a text.
* **`Floating.fixed`**, **`Floating.scientific`**, **`Floating.general`**, **`Floating.hexadecimal`** —
  the forms of a number without its sign. -/

namespace Runbook

/-- How large the numbers of a program are. -/
structure FloatFormat where
  /-- How many binary digits the mantissa has. -/
  precision : Nat
  /-- The least power of two that scales a mantissa. -/
  least : Int
  /-- The greatest power of two that scales a mantissa. -/
  greatest : Int
  /-- How many binary digits stand before the point in the form of base sixteen. -/
  leading : Nat

namespace FloatFormat

/-- Numbers of 64 bits. -/
def double : FloatFormat := ⟨53, -1074, 971, 1⟩

/-- Numbers of 80 bits. -/
def extended : FloatFormat := ⟨64, -16445, 16320, 4⟩

end FloatFormat

/-- A number without its sign. -/
inductive Magnitude where
  /-- A mantissa that a power of two scales. -/
  | finite (mantissa : Nat) (exponent : Int)
  | infinite
  /-- No number at all. -/
  | undefined
  deriving DecidableEq, Repr

/-- A number. -/
structure Floating where
  /-- Whether its sign is a minus. -/
  negative : Bool
  /-- Its size. -/
  size : Magnitude
  deriving DecidableEq, Repr

namespace FloatFormat

/-- The mantissa and the exponent of the number nearest to `num / den`, and whether that is out of
reach: too large, or too small to be kept exactly. -/
def nearest (format : FloatFormat) (num den : Nat) : Magnitude × Bool :=
  if num = 0 then (.finite 0 format.least, false)
  else
    let guess : Int := (num.log2 : Int) - (den.log2 : Int) - (format.precision - 1 : Nat)
    let (n, d) := Binary64.scaleDown num den guess
    -- the logarithms leave the exponent uncertain by one
    let fitting := if n < d * Nat.pow 2 (format.precision - 1) then guess - 1 else guess
    let exponent := max fitting format.least
    let (n, d) := Binary64.scaleDown num den exponent
    let rounded := Binary64.roundHalfEven n d
    let (mantissa, exponent) :=
      if rounded = Nat.pow 2 format.precision then (Nat.pow 2 (format.precision - 1), exponent + 1)
      else (rounded, exponent)
    if format.greatest < exponent then (.infinite, true)
    else
      let tiny := mantissa < Nat.pow 2 (format.precision - 1)
      (.finite mantissa exponent, tiny && n % d != 0)

/-- The number nearest to `digits · base ^ exponent`; sizes far out of reach are decided without a
power. -/
def scaled (format : FloatFormat) (digits base : Nat) (exponent : Int) : Magnitude × Bool :=
  if digits = 0 then (.finite 0 format.least, false)
  else
    let size : Int := Binary64.digitCount digits + exponent
    if 40000 < size then (.infinite, true)
    else if size < -40000 then (.finite 0 format.least, true)
    else if 0 ≤ exponent then format.nearest (digits * Nat.pow base exponent.toNat) 1
    else format.nearest digits (Nat.pow base (-exponent).toNat)

end FloatFormat

namespace Floating

/-! ### Reading -/

/-- The number that digits of a base write. -/
def digitsValue (base : Nat) (digits : List Char) : Nat :=
  digits.foldl (fun n c => n * base + (Text.hexValue? c).getD 0) 0

/-- The power at the end of a number after one of two letters; without digits there is none. -/
def readPower (letters : List Char) (text : List Char) : Int × List Char :=
  match text with
  | c :: rest =>
    if letters.contains c then
      let (negative, digits) := match rest with
        | '-' :: digits => (true, digits)
        | '+' :: digits => (false, digits)
        | digits => (false, digits)
      let found := digits.takeWhile Char.isDigit
      if found.isEmpty then (0, text)
      else
        -- further digits cannot bring a number back into reach
        let size : Int := digitsValue 10 (found.take 12)
        (if negative then -size else size, digits.dropWhile Char.isDigit)
    else (0, text)
  | [] => (0, text)

/-- The number with the given digits at the start of a text; `step` is how much a digit behind the
point takes from the power of `base`. -/
def readDigits (format : FloatFormat) (radix base step : Nat) (letters : List Char)
    (text : List Char) : Option (Magnitude × Bool × List Char) :=
  let isDigit (c : Char) : Bool := (Text.hexValue? c).any (· < radix)
  let whole := text.takeWhile isDigit
  let rest := text.dropWhile isDigit
  let (fraction, rest) := match rest with
    | '.' :: more =>
      if whole.isEmpty && !(more.head?.any isDigit) then ([], rest)
      else (more.takeWhile isDigit, more.dropWhile isDigit)
    | _ => ([], rest)
  if whole.isEmpty && fraction.isEmpty then none
  else
    let (power, rest) := readPower letters rest
    let (size, outOfRange) := format.scaled (digitsValue radix (whole ++ fraction)) base
      (power - (fraction.length * step : Nat))
    some (size, outOfRange, rest)

/-- The text behind a word at the start of a text, whose letters may be large. -/
def dropWord? (word : String) (text : List Char) : Option (List Char) :=
  let size := word.length
  if (text.take size).map Char.toLower = word.toList then some (text.drop size) else none

/-- The size at the start of a text without a sign, whether it is out of reach, and what follows. -/
def readSize (format : FloatFormat) (text : List Char) : Option (Magnitude × Bool × List Char) :=
  match dropWord? "infinity" text, dropWord? "inf" text, dropWord? "nan" text,
      dropWord? "0x" text with
  | some rest, _, _, _ | none, some rest, _, _ => some (.infinite, false, rest)
  | none, none, some rest, _ =>
    let isWordChar (c : Char) : Bool := c.isAlphanum || c == '_'
    match rest with
    | '(' :: more =>
      match more.dropWhile isWordChar with
      | ')' :: rest => some (.undefined, false, rest)
      | _ => some (.undefined, false, rest)
    | _ => some (.undefined, false, rest)
  | none, none, none, some rest =>
    (readDigits format 16 2 4 ['p', 'P'] rest).or (readDigits format 10 10 1 ['e', 'E'] text)
  | none, none, none, none => readDigits format 10 10 1 ['e', 'E'] text

/-- The number at the start of a text, whether it is out of reach, and what follows it; blanks may
come first. -/
def parse (format : FloatFormat) (text : List Char) : Option (Floating × Bool × List Char) :=
  let text := text.dropWhile fun c => c == ' ' || ('\t' ≤ c && c ≤ '\r')
  let (negative, text) := match text with
    | '-' :: rest => (true, rest)
    | '+' :: rest => (false, rest)
    | rest => (false, rest)
  (readSize format text).map fun (size, outOfRange, rest) => (⟨negative, size⟩, outOfRange, rest)

/-! ### Writing -/

/-- `mantissa · 2 ^ exponent` as a quotient. -/
def quotient (mantissa : Nat) (exponent : Int) : Nat × Nat :=
  if 0 ≤ exponent then (mantissa * Nat.pow 2 exponent.toNat, 1)
  else (mantissa, Nat.pow 2 (-exponent).toNat)

/-- `num / den · 10 ^ power`, rounded to a natural number. -/
def roundScaled (num den : Nat) (power : Int) : Nat :=
  if 0 ≤ power then Binary64.roundHalfEven (num * Nat.pow 10 power.toNat) den
  else Binary64.roundHalfEven num (den * Nat.pow 10 (-power).toNat)

/-- Digits with a point before the last `places` of them; without places the point is written only if
it is asked for. -/
def withPoint (places : Nat) (point : Bool) (digits : List Char) : List Char :=
  let digits := List.replicate (places + 1 - digits.length) '0' ++ digits
  let whole := digits.take (digits.length - places)
  if places = 0 then if point then whole ++ ['.'] else whole
  else whole ++ '.' :: digits.drop (digits.length - places)

/-- The form with a fixed number of digits behind the point. -/
def fixed (num den places : Nat) (point : Bool) : List Char :=
  withPoint places point (Nat.toDigits 10 (roundScaled num den places))

/-- The power of ten of the first digit of a positive quotient. -/
def powerOf (num den : Nat) : Int :=
  if den ≤ num then (Binary64.digitCount (num / den) : Int) - 1
  else -(Binary64.digitCount ((den - 1) / num) : Int)

/-- The digits and the power of ten when `places` digits follow the first one. -/
def digitsAt (num den places : Nat) : List Char × Int :=
  if num = 0 then (List.replicate (places + 1) '0', 0)
  else
    let power := powerOf num den
    let rounded := Nat.toDigits 10 (roundScaled num den (places - power))
    -- nines may round up to one more digit
    if rounded.length = places + 2 then (rounded.take (places + 1), power + 1) else (rounded, power)

/-- A power with a letter before it, a sign and at least `width` digits. -/
def powerText (letter : Char) (width : Nat) (power : Int) : List Char :=
  let digits := Nat.toDigits 10 power.natAbs
  letter :: (if power < 0 then '-' else '+') :: (List.replicate (width - digits.length) '0' ++ digits)

/-- The form with one digit before the point and a power of ten. -/
def scientific (num den places : Nat) (point : Bool) : List Char :=
  let (digits, power) := digitsAt num den places
  withPoint places point digits ++ powerText 'e' 2 power

/-- Digits with a point without the zeros at their end. -/
def dropZeros (digits : List Char) : List Char :=
  if digits.contains '.' then
    match digits.reverse.dropWhile (· == '0') with
    | '.' :: rest => rest.reverse
    | rest => rest.reverse
  else digits

/-- The shorter of the two forms with a number of digits in all, without zeros at the end unless they
are asked for. -/
def general (num den digits : Nat) (zeros : Bool) : List Char :=
  let size := max digits 1
  let (found, power) := digitsAt num den (size - 1)
  let trim := if zeros then id else dropZeros
  if power < -4 || (size : Int) ≤ power then
    trim (withPoint (size - 1) zeros found) ++ powerText 'e' 2 power
  else trim (fixed num den ((size : Int) - 1 - power).toNat zeros)

/-- The form in base sixteen: with `places` digits behind the point, or else as many as it takes. -/
def hexadecimal (format : FloatFormat) (mantissa : Nat) (exponent : Int) (places : Option Nat)
    (point : Bool) : List Char :=
  -- the digits before the point take `leading` bits, and each digit behind it takes four
  let bits := format.precision - format.leading
  let size := (bits + 3) / 4
  let scaled := mantissa * Nat.pow 2 (4 * size - bits)
  let (scaled, count) := match places with
    | some places =>
      if places < size then
        (Binary64.roundHalfEven scaled (Nat.pow 16 (size - places)), places)
      else (scaled * Nat.pow 16 (places - size), places)
    | none => (scaled, size)
  -- rounding may carry into another digit, which then takes the place of the first one
  let carried := Nat.pow 16 (count + 1) ≤ scaled
  let text := Nat.toDigits 16 (if carried then scaled / 16 else scaled)
  let text := withPoint count point text
  let text := if places.isNone then (let short := dropZeros text
    if point && !short.contains '.' then short ++ ['.'] else short) else text
  let power := if mantissa = 0 then 0 else exponent + bits + if carried then 4 else 0
  '0' :: 'x' :: (text ++ powerText 'p' 1 power)

end Floating

end Runbook
