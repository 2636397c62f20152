/-! # Binary floating point numbers

The finite numbers of the 64-bit binary format, as exact values `± mantissa · 2 ^ exponent`, and
the two ways in which a decimal text becomes one.

* **`Binary64`** — a finite number in its only canonical form, so that equal structures are equal
  numbers with equal signs.
* **`Binary64.nearest`** — the number nearest to a quotient, a tie going to the even mantissa.
* **`Binary64.ofDecimal`** — the number nearest to `digits · 10 ^ exponent`.
* **`Binary64.ofScaled`** — the number that rounds `digits` first and scales by a rounded power of
  ten afterwards, each step rounding on its own. -/

namespace Runbook

/-- The pairs of mantissa and exponent that stand for a finite number in the canonical way. -/
def Binary64.Canonical (mantissa : Nat) (exponent : Int) : Prop :=
  mantissa < Nat.pow 2 53 ∧ -1074 ≤ exponent ∧ exponent ≤ 971
    ∧ (Nat.pow 2 52 ≤ mantissa ∨ exponent = -1074)

instance (mantissa : Nat) (exponent : Int) : Decidable (Binary64.Canonical mantissa exponent) :=
  inferInstanceAs (Decidable (_ ∧ _ ∧ _ ∧ _))

/-- A finite number of the 64-bit binary format. -/
structure Binary64 where
  /-- Whether the sign is negative; zero has a sign of its own. -/
  negative : Bool
  /-- The integer that the power of two scales. -/
  mantissa : Nat
  /-- The power of two. -/
  exponent : Int
  canonical : Binary64.Canonical mantissa exponent
  deriving DecidableEq

namespace Binary64

/-- Zero with the given sign. -/
def zero (negative : Bool) : Binary64 := ⟨negative, 0, -1074, by decide⟩

instance : Inhabited Binary64 := ⟨zero false⟩

/-- A quotient rounded to the nearest natural number, a tie going to the even one. -/
def roundHalfEven (num den : Nat) : Nat :=
  let floor := num / den
  let rest := num % den
  if 2 * rest < den then floor
  else if den < 2 * rest then floor + 1
  else if floor % 2 = 0 then floor else floor + 1

/-- `num / den / 2 ^ exponent` as a quotient of natural numbers. -/
def scaleDown (num den : Nat) (exponent : Int) : Nat × Nat :=
  if 0 ≤ exponent then (num, den * Nat.pow 2 exponent.toNat)
  else (num * Nat.pow 2 (-exponent).toNat, den)

/-- The number nearest to `num / den`; nothing when that lies beyond the largest finite number. -/
def nearest (negative : Bool) (num den : Nat) : Option Binary64 :=
  if num = 0 then some (zero negative)
  else
    let guess : Int := (num.log2 : Int) - (den.log2 : Int) - 52
    let (n, d) := scaleDown num den guess
    -- the logarithms leave the exponent uncertain by one
    let fitting := if n < d * Nat.pow 2 52 then guess - 1 else guess
    -- below the smallest exponent the mantissa gets shorter instead
    let exponent := max fitting (-1074)
    let (n, d) := scaleDown num den exponent
    let rounded := roundHalfEven n d
    -- rounding up may reach the next power of two
    let (mantissa, exponent) :=
      if rounded = Nat.pow 2 53 then (Nat.pow 2 52, exponent + 1) else (rounded, exponent)
    if h : Canonical mantissa exponent then some ⟨negative, mantissa, exponent, h⟩ else none

/-- The absolute value as a quotient of natural numbers. -/
def quotient (x : Binary64) : Nat × Nat :=
  if 0 ≤ x.exponent then (x.mantissa * Nat.pow 2 x.exponent.toNat, 1)
  else (x.mantissa, Nat.pow 2 (-x.exponent).toNat)

/-- The number of decimal digits of a natural number; zero has one. -/
def digitCount (n : Nat) : Nat := (Nat.toDigits 10 n).length

/-- The number nearest to `digits · 10 ^ exponent`; nothing when that lies beyond the largest finite
number. Powers far outside the format are decided by their size alone. -/
def ofDecimal (negative : Bool) (digits : Nat) (exponent : Int) : Option Binary64 :=
  let size : Int := digitCount digits + exponent
  if digits = 0 || size < -400 then some (zero negative)
  else if 400 < size then none
  else if 0 ≤ exponent then nearest negative (digits * Nat.pow 10 exponent.toNat) 1
  else nearest negative digits (Nat.pow 10 (-exponent).toNat)

/-- The rounded product of a number and the rounded power `10 ^ power`. -/
def timesPowerOfTen (x : Binary64) (power : Nat) : Option Binary64 :=
  (nearest false (Nat.pow 10 power) 1).bind fun p =>
    let (xn, xd) := x.quotient
    let (pn, pd) := p.quotient
    nearest x.negative (xn * pn) (xd * pd)

/-- The rounded quotient of a number and the rounded power `10 ^ power`. -/
def overPowerOfTen (x : Binary64) (power : Nat) : Option Binary64 :=
  (nearest false (Nat.pow 10 power) 1).bind fun p =>
    let (xn, xd) := x.quotient
    let (pn, pd) := p.quotient
    nearest x.negative (xn * pd) (xd * pn)

/-- The number that is got from `digits · 10 ^ exponent` in rounded steps: the digits are rounded,
then multiplied or divided by the rounded power of ten, where a division by more than `10 ^ 308`
goes by way of that power. Nothing when a step leaves the finite numbers. -/
def ofScaled (negative : Bool) (digits : Nat) (exponent : Int) : Option Binary64 := do
  let x ← nearest negative digits 1
  if 308 < exponent then
    if x.mantissa = 0 then some x else none
  else if 0 ≤ exponent then x.timesPowerOfTen exponent.toNat
  else go 3 x (-exponent).toNat
where
  /-- Divides by `10 ^ power`, in at most `steps` divisions after which nothing but zero is left. -/
  go : Nat → Binary64 → Nat → Option Binary64
    | 0, x, _ => some (zero x.negative)
    | steps + 1, x, power =>
      if x.mantissa = 0 then some x
      else if power ≤ 308 then x.overPowerOfTen power
      else (x.overPowerOfTen 308).bind fun y => go steps y (power - 308)

end Binary64

end Runbook
