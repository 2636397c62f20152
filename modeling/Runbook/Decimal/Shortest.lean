import Runbook.Decimal.Binary64

/-! # Shortest decimal texts

The decimal text of a binary number with the fewest digits that read back as that number, and among
those the nearest one.

* **`Binary64.shortest`** — the digits and the place of the decimal point.
* **`DecimalStyle`** — which sizes are written positionally and which with a power of ten.
* **`Binary64.render`** — the text in a given style. -/

namespace Runbook

/-- A positive decimal `0.d₁d₂… · 10 ^ point`, its digits held as one natural number. -/
structure ShortDecimal where
  /-- The digits, read as one natural number. -/
  digits : Nat
  /-- How many digits stand before the decimal point. -/
  point : Int
  deriving DecidableEq, Repr

/-- Which numbers are written positionally: those whose power of ten, when one digit stands before
the point, passes the test. -/
structure DecimalStyle where
  /-- Whether a number of this power of ten is written positionally. -/
  positional : Int → Bool

/-- Data texts write powers of ten from -5 to 15 positionally. -/
def DecimalStyle.data : DecimalStyle := ⟨fun power => -5 ≤ power && power ≤ 15⟩

/-- Messages write every number positionally. -/
def DecimalStyle.plain : DecimalStyle := ⟨fun _ => true⟩

namespace Binary64

/-- Whether `num / den` lies among the real numbers that round to `x`; the ends do when the mantissa
is even. The interval reaches half a step up, and half a step down or a quarter at a power of two. -/
def covers (x : Binary64) (num den : Nat) : Bool :=
  let down := if x.mantissa = Nat.pow 2 52 ∧ -1074 < x.exponent then 1 else 2
  let (n, d) := scaleDown num den (x.exponent - 2)
  let low := (4 * x.mantissa - down) * d
  let high := (4 * x.mantissa + 2) * d
  if x.mantissa % 2 = 0 then low ≤ n && n ≤ high else low < n && n < high

/-- The number of digits before the decimal point of a positive quotient: the least `k` with
`num / den < 10 ^ k`, negative or zero for small quotients. -/
def pointOf (num den : Nat) : Int :=
  if den ≤ num then digitCount (num / den) else 1 - (digitCount ((den - 1) / num) : Int)

/-- `count · 10 ^ power` as a quotient of natural numbers. -/
def gridPoint (count : Nat) (power : Int) : Nat × Nat :=
  if 0 ≤ power then (count * Nat.pow 10 power.toNat, 1) else (count, Nat.pow 10 (-power).toNat)

/-- The nearest of the two decimals with `size` digits around `x`, if one of them reads back. -/
def shortestOfSize (x : Binary64) (point : Int) (size : Nat) : Option ShortDecimal :=
  let power := point - size
  let (num, den) := x.quotient
  let (n, d) := if 0 ≤ power then (num, den * Nat.pow 10 power.toNat)
    else (num * Nat.pow 10 (-power).toNat, den)
  let lower := n / d
  let rest := n % d
  let hit := fun count => let (a, b) := gridPoint count power; x.covers a b
  let choose := fun count =>
    -- nine, or ninety-nine and so on, may round up to one more digit, of which only the first counts
    if count = Nat.pow 10 size then some ⟨1, point + 1⟩ else some (⟨count, point⟩ : ShortDecimal)
  match hit lower, hit (lower + 1) with
  | false, false => none
  | true, false => choose lower
  | false, true => choose (lower + 1)
  | true, true =>
    if 2 * rest < d then choose lower
    else if d < 2 * rest then choose (lower + 1)
    else if lower % 2 = 0 then choose lower else choose (lower + 1)

/-- The decimal with the fewest digits that reads back as the non-zero number `x`. Seventeen digits
always do, so the search ends. -/
def shortest (x : Binary64) : ShortDecimal :=
  let (num, den) := x.quotient
  let point := pointOf num den
  ((List.range 17).findSome? fun size => x.shortestOfSize point (size + 1)).getD ⟨0, 1⟩

/-- The digits of a natural number in base ten. -/
def digitsText (n : Nat) : List Char := Nat.toDigits 10 n

/-- The decimal text of a number: its shortest digits, positionally with at least one digit after
the point or with a power of ten that always has a sign. -/
def render (style : DecimalStyle) (x : Binary64) : List Char :=
  let sign := if x.negative then ['-'] else []
  if x.mantissa = 0 then sign ++ ['0', '.', '0']
  else
    let decimal := x.shortest
    let digits := digitsText decimal.digits
    let power := decimal.point - 1
    let body :=
      if style.positional power then
        if decimal.point ≤ 0 then
          '0' :: '.' :: (List.replicate (-decimal.point).toNat '0' ++ digits)
        else if decimal.point < digits.length then
          digits.take decimal.point.toNat ++ '.' :: digits.drop decimal.point.toNat
        else
          digits ++ List.replicate (decimal.point.toNat - digits.length) '0' ++ ['.', '0']
      else
        let mantissa := match digits with
          | first :: second :: more => first :: '.' :: second :: more
          | few => few
        let powerText := if power < 0 then '-' :: digitsText (-power).toNat
          else '+' :: digitsText power.toNat
        mantissa ++ 'e' :: powerText
    sign ++ body

end Binary64

end Runbook
