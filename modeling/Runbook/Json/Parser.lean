import Runbook.Json.Basic
import Runbook.Text.Blank

/-! # Reading data trees

The strict reader of data texts. Blanks are spaces, tabs, line feeds and carriage returns; a
repeated key keeps its last value; containers nest at most 127 deep.

* **`Json.parse?`** — the tree of a text, if the whole text is one. -/

namespace Runbook.Json

/-- Whether a character may stand between two tokens. -/
def isGap (c : Char) : Bool := c == ' ' || c == '\n' || c == '\t' || c == '\r'

/-- A text from its first token on. -/
def skipGap (text : List Char) : List Char := text.dropWhile isGap

/-- The number written by four digits of base sixteen. -/
def hexQuad? (a b c d : Char) : Option Nat := do
  let a ← Text.hexValue? a
  let b ← Text.hexValue? b
  let c ← Text.hexValue? c
  let d ← Text.hexValue? d
  some (((a * 16 + b) * 16 + c) * 16 + d)

/-- The character that a one-letter escape stands for. -/
def simpleEscape? : Char → Option Char
  | '"' => some '"'
  | '\\' => some '\\'
  | '/' => some '/'
  | 'b' => some (Char.ofNat 8)
  | 'f' => some (Char.ofNat 12)
  | 'n' => some '\n'
  | 'r' => some '\r'
  | 't' => some '\t'
  | _ => none

/-- The rest of a string after its opening quote, and what follows its closing quote. The first half
of a pair of surrogates must be followed by the second half, and the second has no other place. -/
def readString (found : List Char) : List Char → Option (List Char × List Char)
  | [] => none
  | '"' :: rest => some (found.reverse, rest)
  | '\\' :: 'u' :: a :: b :: c :: d :: rest =>
    match hexQuad? a b c d with
    | none => none
    | some unit =>
      if 0xDC00 ≤ unit ∧ unit ≤ 0xDFFF then none
      else if 0xD800 ≤ unit ∧ unit ≤ 0xDBFF then
        match rest with
        | '\\' :: 'u' :: e :: f :: g :: h :: rest =>
          match hexQuad? e f g h with
          | some second =>
            if 0xDC00 ≤ second ∧ second ≤ 0xDFFF then
              let code := 0x10000 + (unit - 0xD800) * 0x400 + (second - 0xDC00)
              readString (Char.ofNat code :: found) rest
            else none
          | none => none
        | _ => none
      else readString (Char.ofNat unit :: found) rest
  | '\\' :: c :: rest =>
    match simpleEscape? c with
    | some plain => readString (plain :: found) rest
    | none => none
  | c :: rest => if c.toNat < 32 then none else readString (c :: found) rest

/-- The value of a decimal digit. -/
def digitValue (c : Char) : Nat := c.toNat - 48

/-- Reads digits into a number below `2 ^ 64`. Gives the number, how many digits were used, and how
many more digits stand there that no longer fit. -/
def gatherDigits : Nat → List Char → Nat × Nat × Nat
  | value, [] => (value, 0, 0)
  | value, c :: rest =>
    let next := value * 10 + digitValue c
    if next < Nat.pow 2 64 then
      let (total, used, more) := gatherDigits next rest
      (total, used + 1, more)
    else (value, 0, (c :: rest).length)

/-- The power of ten after an `e`, and what follows it. -/
def readExponent (text : List Char) : Option (Int × List Char) :=
  let (negative, text) := match text with
    | '+' :: rest => (false, rest)
    | '-' :: rest => (true, rest)
    | rest => (false, rest)
  let digits := text.takeWhile Char.isDigit
  if digits.isEmpty then none
  else
    let size := digits.foldl (fun total c => total * 10 + digitValue c) 0
    some (if negative then -(size : Int) else (size : Int), text.dropWhile Char.isDigit)

/-- A number after its sign, and what follows it. A number with a point or a power of ten, one that
fits no integer type, and the negative zero are read as doubles from the digits that fit. -/
def readNumber (negative : Bool) (text : List Char) : Option (Number × List Char) :=
  let whole := text.takeWhile Char.isDigit
  let rest := text.dropWhile Char.isDigit
  let scaled := fun digits exponent rest =>
    (Binary64.ofScaled negative digits exponent).map fun x => (Number.double x, rest)
  let powered := fun digits (exponent : Int) rest =>
    match rest with
    | 'e' :: rest | 'E' :: rest =>
      (readExponent rest).bind fun (power, rest) => scaled digits (exponent + power) rest
    | rest => scaled digits exponent rest
  if whole.isEmpty || (whole.head? = some '0' && 1 < whole.length) then none
  else
    let (digits, _, more) := gatherDigits 0 whole
    match rest with
    | '.' :: rest =>
      let fraction := rest.takeWhile Char.isDigit
      if fraction.isEmpty then none
      else
        let (digits, used, _) := gatherDigits digits fraction
        powered digits ((more : Int) - used) (rest.dropWhile Char.isDigit)
    | 'e' :: _ | 'E' :: _ => powered digits more rest
    | rest =>
      if 0 < more then scaled digits more rest
      else if !negative then some (.integer digits, rest)
      else if 0 < digits ∧ digits ≤ Nat.pow 2 63 then some (.integer (-(digits : Int)), rest)
      else scaled digits 0 rest

mutual

/-- The value at the start of a text, and what follows it. Containers may still nest `depth` deep;
`fuel` exceeds the length of the text. -/
def readValue : Nat → Nat → List Char → Option (Json × List Char)
  | 0, _, _ => none
  | fuel + 1, depth, text =>
    match skipGap text with
    | 'n' :: 'u' :: 'l' :: 'l' :: rest => some (.null, rest)
    | 't' :: 'r' :: 'u' :: 'e' :: rest => some (.bool true, rest)
    | 'f' :: 'a' :: 'l' :: 's' :: 'e' :: rest => some (.bool false, rest)
    | '"' :: rest => (readString [] rest).map fun (s, rest) => (.string (String.ofList s), rest)
    | '[' :: rest =>
      match depth with
      | 0 => none
      | depth + 1 =>
        match skipGap rest with
        | ']' :: rest => some (.array [], rest)
        | rest => readItems fuel depth [] rest
    | '{' :: rest =>
      match depth with
      | 0 => none
      | depth + 1 =>
        match skipGap rest with
        | '}' :: rest => some (.object [], rest)
        | rest => readMembers fuel depth [] rest
    | '-' :: rest => (readNumber true rest).map fun (n, rest) => (.number n, rest)
    | rest => (readNumber false rest).map fun (n, rest) => (.number n, rest)

/-- The items of a sequence up to its closing bracket; `found` holds the earlier ones in reverse. -/
def readItems : Nat → Nat → List Json → List Char → Option (Json × List Char)
  | 0, _, _, _ => none
  | fuel + 1, depth, found, text =>
    match readValue fuel depth text with
    | none => none
    | some (item, rest) =>
      match skipGap rest with
      | ',' :: rest => readItems fuel depth (item :: found) rest
      | ']' :: rest => some (.array (item :: found).reverse, rest)
      | _ => none

/-- The members of a mapping up to its closing brace; `found` holds the earlier ones. -/
def readMembers : Nat → Nat → Fields → List Char → Option (Json × List Char)
  | 0, _, _, _ => none
  | fuel + 1, depth, found, text =>
    match skipGap text with
    | '"' :: rest =>
      match readString [] rest with
      | none => none
      | some (key, rest) =>
        match skipGap rest with
        | ':' :: rest =>
          match readValue fuel depth rest with
          | none => none
          | some (value, rest) =>
            let found := Fields.insert found (String.ofList key) value
            match skipGap rest with
            | ',' :: rest => readMembers fuel depth found rest
            | '}' :: rest => some (.object found, rest)
            | _ => none
        | _ => none
    | _ => none

end

/-- How deep containers may nest. -/
def depthLimit : Nat := 127

/-- The tree of a text, if the text is one and nothing else. -/
def parse? (text : String) : Option Json :=
  let chars := text.toList
  match readValue (chars.length + 1) depthLimit chars with
  | some (value, rest) => if (skipGap rest).isEmpty then some value else none
  | none => none

/-- A text as the tree that it is, or else as a bare string. -/
def ofPayload (text : String) : Json := (parse? text).getD (.string text)

end Runbook.Json
