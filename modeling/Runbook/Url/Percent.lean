import Runbook.Text.Blank

/-! # Percent encoding

Characters that have a meaning of their own in a part of a web address, and all that are not visible
ASCII, are written there as the bytes of their UTF-8 form, each a percent sign and two digits of base
sixteen. Percent signs themselves stay as they are.

* **`Percent.encode`** — encodes the characters that a test calls unsafe.
* **`Percent.isUserUnsafe`**, **`Percent.isPathUnsafe`**, … — the unsafe characters of each part.
* **`Percent.decodeBytes`** — the bytes that a text stands for. -/

namespace Runbook.Percent

/-- A digit of base sixteen, in capitals. -/
def hexDigit (n : Nat) : Char := if n < 10 then Char.ofNat (48 + n) else Char.ofNat (55 + n)

/-- A byte as a percent sign and two digits. -/
def encodeByte (byte : UInt8) : List Char :=
  ['%', hexDigit (byte.toNat / 16), hexDigit (byte.toNat % 16)]

/-- A character as the bytes of its UTF-8 form. -/
def encodeChar (c : Char) : List Char := (String.utf8EncodeChar c).flatMap encodeByte

/-- A text with its unsafe characters encoded. -/
def encode (isUnsafe : Char → Bool) (text : List Char) : List Char :=
  text.flatMap fun c => if isUnsafe c then encodeChar c else [c]

/-- Whether a character is a control or no ASCII character. -/
def isControl (c : Char) : Bool := c.toNat < 32 || 127 ≤ c.toNat

/-- The unsafe characters of a fragment. -/
def isFragmentUnsafe (c : Char) : Bool :=
  isControl c || c == ' ' || c == '"' || c == '<' || c == '>' || c == '`'

/-- The unsafe characters of a query. -/
def isQueryUnsafe (c : Char) : Bool :=
  isControl c || c == ' ' || c == '"' || c == '#' || c == '<' || c == '>' || c == '\''

/-- The unsafe characters of a path. -/
def isPathUnsafe (c : Char) : Bool :=
  isFragmentUnsafe c || c == '#' || c == '?' || c == '{' || c == '}'

/-- The unsafe characters of a user name or password. -/
def isUserUnsafe (c : Char) : Bool :=
  isPathUnsafe c || c == '/' || c == ':' || c == ';' || c == '=' || c == '@' || c == '['
    || c == '\\' || c == ']' || c == '^' || c == '|'

/-- The bytes that a text stands for: a percent sign with two digits after it is one byte, and any
other character is its UTF-8 form. -/
def decodeBytes : List Char → List UInt8
  | [] => []
  | '%' :: high :: low :: rest =>
    match Text.hexValue? high, Text.hexValue? low with
    | some h, some l => UInt8.ofNat (h * 16 + l) :: decodeBytes rest
    | _, _ => String.utf8EncodeChar '%' ++ decodeBytes (high :: low :: rest)
  | c :: rest => String.utf8EncodeChar c ++ decodeBytes rest

end Runbook.Percent
