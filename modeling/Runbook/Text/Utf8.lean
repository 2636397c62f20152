/-! # Text in bytes

* **`Bytes`** — a sequence of bytes.
* **`Utf8.fault?`** — where and how a sequence of bytes first fails to be UTF-8.
* **`Utf8.decode`** — the text of bytes, or that fault. -/

namespace Runbook

/-- A sequence of bytes. -/
abbrev Bytes := List UInt8

/-- How bytes fail to be UTF-8. -/
inductive Utf8Error where
  /-- From an index on, this many bytes begin no character. -/
  | invalid (index length : Nat)
  /-- From an index on, the bytes end within a character. -/
  | incomplete (index : Nat)
  deriving DecidableEq, Repr

/-- The wording of an error. -/
def Utf8Error.message : Utf8Error → String
  | .invalid index length =>
    "invalid utf-8 sequence of " ++ toString length ++ " bytes from index " ++ toString index
  | .incomplete index => "incomplete utf-8 byte sequence from index " ++ toString index

namespace Utf8

/-- The bytes that may follow one of the given number, as ranges; none if it begins no character. -/
def followers? (first : Nat) : Option (List (Nat × Nat)) :=
  let any := (0x80, 0xBF)
  if first < 0x80 then some []
  else if first < 0xC2 then none
  else if first < 0xE0 then some [any]
  else if first = 0xE0 then some [(0xA0, 0xBF), any]
  else if first = 0xED then some [(0x80, 0x9F), any]
  else if first < 0xF0 then some [any, any]
  else if first = 0xF0 then some [(0x90, 0xBF), any, any]
  else if first < 0xF4 then some [any, any, any]
  else if first = 0xF4 then some [(0x80, 0x8F), any, any]
  else none

/-- How many bytes at the start lie in the ranges, one for each, and whether all ranges are served;
if not, whether that is because the bytes end. -/
def follow : List (Nat × Nat) → Bytes → Nat × Option Bool
  | [], _ => (0, none)
  | _ :: _, [] => (0, some true)
  | (low, high) :: ranges, byte :: bytes =>
    if low ≤ byte.toNat ∧ byte.toNat ≤ high then
      let (count, reason) := follow ranges bytes
      (count + 1, reason)
    else (0, some false)

/-- The first fault of bytes that begin at an index; `skip` of them belong to the character before. -/
def faultFrom? : (index skip : Nat) → Bytes → Option Utf8Error
  | _, _, [] => none
  | index, skip + 1, _ :: bytes => faultFrom? (index + 1) skip bytes
  | index, 0, byte :: bytes =>
    match followers? byte.toNat with
    | none => some (.invalid index 1)
    | some ranges =>
      match follow ranges bytes with
      | (_, some true) => some (.incomplete index)
      | (count, some false) => some (.invalid index (count + 1))
      | (count, none) => faultFrom? (index + 1) count bytes

/-- Where and how bytes first fail to be UTF-8, if they do. -/
def fault? (bytes : Bytes) : Option Utf8Error := faultFrom? 0 0 bytes

/-- The text of bytes, if they are UTF-8. -/
def text? (bytes : Bytes) : Option String := String.fromUTF8? ⟨bytes.toArray⟩

/-- The text of bytes, or how they first fail to be UTF-8. -/
def decode (bytes : Bytes) : Except Utf8Error String :=
  match fault? bytes, text? bytes with
  | some error, _ => .error error
  | none, some text => .ok text
  | none, none => .error (.incomplete bytes.length)

/-- The bytes of a text. -/
def encode (text : String) : Bytes := text.toUTF8.toList

end Utf8

end Runbook
