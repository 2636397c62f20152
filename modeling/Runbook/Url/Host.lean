import Runbook.Decimal.Shortest
import Runbook.Text.Utf8
import Runbook.Url.Domain
import Runbook.Url.Percent

/-! # Hosts of web addresses

A host is a name, or a numeric address of either kind. Numeric addresses have one text each, however
they were written. A name is held in the ASCII form that is handed in for it.

* **`WebHost`** — a host.
* **`WebHost.nameOf?`** — the name in ASCII that a text in percent encoding stands for.
* **`WebHost.parse`** — the host that a text names.
* **`WebHost.render`** — the text of a host. -/

namespace Runbook

/-- Why a text is no web address. -/
inductive UrlError where
  /-- It does not begin with a scheme. -/
  | relativeWithoutBase
  /-- It names no host. -/
  | emptyHost
  /-- Its port is no number below 65536. -/
  | invalidPort
  /-- Its host has no name in ASCII, or one with forbidden characters. -/
  | invalidName
  /-- Its host is made of numbers and yet no address. -/
  | invalidIpv4
  /-- Its host stands in brackets and is no address. -/
  | invalidIpv6
  /-- Its host, which is opaque, has forbidden characters. -/
  | invalidOpaque
  deriving DecidableEq, Repr

/-- The wording of an error. -/
def UrlError.message : UrlError → String
  | .relativeWithoutBase => "relative URL without a base"
  | .emptyHost => "empty host"
  | .invalidPort => "invalid port number"
  | .invalidName => "invalid international domain name"
  | .invalidIpv4 => "invalid IPv4 address"
  | .invalidIpv6 => "invalid IPv6 address"
  | .invalidOpaque => "invalid domain character"

/-- The host of a web address. -/
inductive WebHost where
  /-- A name in its ASCII form. -/
  | name (text : List Char)
  /-- An address of four bytes, as one number. -/
  | ipv4 (address : Nat)
  /-- An address of eight pieces of two bytes. -/
  | ipv6 (pieces : List Nat)
  deriving DecidableEq, Repr

namespace WebHost

/-! ## Addresses of four bytes -/

/-- The number that digits of a base write, if all of them are such digits. -/
def numberOf? (base : Nat) (digits : List Char) : Option Nat :=
  digits.foldlM (fun total c =>
    match Text.hexValue? c with
    | some value => if value < base then some (total * base + value) else none
    | none => none) 0

/-- A part of an address: in base sixteen after `0x`, in base eight after another `0`, else in base
ten; a base without digits is zero. -/
def ipv4Number? : List Char → Option Nat
  | [] => none
  | '0' :: 'x' :: digits | '0' :: 'X' :: digits => numberOf? 16 digits
  | '0' :: digit :: digits => numberOf? 8 (digit :: digits)
  | digits => numberOf? 10 digits

/-- The parts of a text between its dots. -/
def splitAt (separator : Char) : List Char → List (List Char)
  | [] => [[]]
  | c :: rest =>
    if c = separator then [] :: splitAt separator rest
    else
      match splitAt separator rest with
      | [] => [[c]]
      | part :: parts => (c :: part) :: parts

/-- The parts of a name, without the empty one after a last dot. -/
def labels (text : List Char) : List (List Char) :=
  let parts := splitAt '.' text
  -- a dot may end a name
  if parts.getLast? = some [] ∧ 1 < parts.length then parts.dropLast else parts

/-- Whether a name ends in a number, so that it must be an address. -/
def endsInNumber (text : List Char) : Bool :=
  match (labels text).getLast? with
  | none => false
  | some label => (!label.isEmpty && label.all Char.isDigit) || (ipv4Number? label).isSome

/-- The address of four bytes that a name writes: the last part fills all bytes that the others
leave. -/
def ipv4Of? (text : List Char) : Option Nat :=
  let parts := labels text
  if 4 < parts.length then none
  else
    match parts.mapM ipv4Number? with
    | none => none
    | some numbers =>
      match numbers.getLast? with
      | none => none
      | some last =>
        let others := numbers.dropLast
        -- each part but the last is a byte, and the last has the room that is left
        if others.any (255 < ·) || Nat.pow 256 (4 - others.length) ≤ last then none
        else
          let high := others.foldl (fun total n => total * 256 + n) 0
          some (high * Nat.pow 256 (4 - others.length) + last)

/-- The text of an address of four bytes. -/
def ipv4Text (address : Nat) : List Char :=
  let byte := fun n => Binary64.digitsText (address / Nat.pow 256 n % 256)
  byte 3 ++ '.' :: (byte 2 ++ '.' :: (byte 1 ++ '.' :: byte 0))

/-! ## Addresses of eight pieces -/

/-- A piece: one to four digits of base sixteen. -/
def pieceOf? (text : List Char) : Option Nat :=
  if text.isEmpty || 4 < text.length then none else numberOf? 16 text

/-- A byte in base ten, without a leading zero. -/
def byteOf? (text : List Char) : Option Nat :=
  if text.isEmpty || (text.head? = some '0' && 1 < text.length) || !text.all Char.isDigit then none
  else
    match numberOf? 10 text with
    | some n => if n < 256 then some n else none
    | none => none

/-- The two pieces of four bytes between dots. -/
def tailOf? (text : List Char) : Option (List Nat) :=
  match (splitAt '.' text).mapM byteOf? with
  | some [a, b, c, d] => some [a * 256 + b, c * 256 + d]
  | _ => none

/-- Pieces between colons; the last may be four bytes between dots. -/
def piecesOf? : List (List Char) → Option (List Nat)
  | [] => some []
  | [last] => if last.contains '.' then tailOf? last else (pieceOf? last).map fun n => [n]
  | text :: rest => do
    let piece ← pieceOf? text
    let pieces ← piecesOf? rest
    some (piece :: pieces)

/-- The text before the first pair of colons, and the text after it if there is one. -/
def cutAtGap : List Char → List Char × Option (List Char)
  | [] => ([], none)
  | ':' :: ':' :: rest => ([], some rest)
  | c :: rest =>
    let (before, after) := cutAtGap rest
    (c :: before, after)

/-- The pieces of a text that may be empty. -/
def groupOf? (text : List Char) : Option (List Nat) :=
  if text.isEmpty then some [] else piecesOf? (splitAt ':' text)

/-- The eight pieces of an address; a pair of colons stands for one zero piece or more. -/
def ipv6Of? (text : List Char) : Option (List Nat) :=
  match cutAtGap text with
  | (all, none) =>
    match groupOf? all with
    | some pieces => if pieces.length = 8 then some pieces else none
    | none => none
  | (left, some right) =>
    -- bytes between dots can only end an address
    if left.contains '.' then none
    else do
      let before ← groupOf? left
      let after ← groupOf? right
      if before.length + after.length ≤ 7 then
        some (before ++ List.replicate (8 - before.length - after.length) 0 ++ after)
      else none

/-- The number of zero pieces at the start. -/
def zeroRun (pieces : List Nat) : Nat := (pieces.takeWhile (· == 0)).length

/-- Where the first of the longest runs of zero pieces begins, and how long it is. -/
def longestGap (pieces : List Nat) : Nat × Nat :=
  (List.range pieces.length).foldl (fun best start =>
    let size := zeroRun (pieces.drop start)
    if best.2 < size then (start, size) else best) (0, 0)

/-- Pieces between colons. -/
def groupText : List Nat → List Char
  | [] => []
  | [piece] => Nat.toDigits 16 piece
  | piece :: rest => Nat.toDigits 16 piece ++ ':' :: groupText rest

/-- The text of an address of eight pieces: the first longest run of two zero pieces or more is a
pair of colons. -/
def ipv6Text (pieces : List Nat) : List Char :=
  let (start, size) := longestGap pieces
  if size < 2 then groupText pieces
  else groupText (pieces.take start) ++ ':' :: ':' :: groupText (pieces.drop (start + size))

/-! ## Hosts -/

/-- Whether a character may not stand in a host name. -/
def isForbidden (c : Char) : Bool :=
  Percent.isControl c || c == ' ' || c == '%' || c == '#' || c == '/' || c == ':' || c == '<'
    || c == '>' || c == '?' || c == '@' || c == '[' || c == '\\' || c == ']' || c == '^' || c == '|'

/-- Whether a character may not stand in an opaque host. -/
def isForbiddenOpaque (c : Char) : Bool :=
  c.toNat == 0 || c == '\t' || c == '\n' || c == '\r' || c == ' ' || c == '#' || c == '/'
    || c == ':' || c == '<' || c == '>' || c == '?' || c == '@' || c == '[' || c == '\\'
    || c == ']' || c == '^' || c == '|'

/-- The host between brackets. -/
def ofBrackets (text : List Char) : Except UrlError WebHost :=
  if text.getLast? = some ']' then
    match ipv6Of? text.dropLast with
    | some pieces => .ok (.ipv6 pieces)
    | none => .error .invalidIpv6
  else .error .invalidIpv6

/-- The host that a name in ASCII means. -/
def ofName (text : List Char) : Except UrlError WebHost :=
  if text.any isForbidden then .error .invalidName
  else if text.isEmpty then .error .emptyHost
  else if endsInNumber text then
    match ipv4Of? text with
    | some address => .ok (.ipv4 address)
    | none => .error .invalidIpv4
  else .ok (.name text)

/-- The name in ASCII that a text stands for: its bytes, without the percent encoding, are the name in
UTF-8. -/
def nameOf? [DomainNames] (text : List Char) : Option (List Char) :=
  (Utf8.text? (Percent.decodeBytes text)).bind fun name => DomainNames.toAscii? name.toList

/-- The host that a text names. Which names there are, and how they are written, is handed in with
`DomainNames`: with `DomainNames.ascii`, names in other scripts are refused. -/
def parse [DomainNames] : List Char → Except UrlError WebHost
  | '[' :: rest => ofBrackets rest
  | text =>
    match nameOf? text with
    | some found => ofName found
    | none => .error .invalidName

/-- Whether a text is an opaque host, which any other scheme than those of the web has. -/
def checkOpaque : List Char → Except UrlError Unit
  | '[' :: rest => (ofBrackets rest).map fun _ => ()
  | text => if text.any isForbiddenOpaque then .error .invalidOpaque else .ok ()

/-- The text of a host. -/
def render : WebHost → List Char
  | .name text => text
  | .ipv4 address => ipv4Text address
  | .ipv6 pieces => '[' :: (ipv6Text pieces ++ [']'])

end WebHost

end Runbook
