import Runbook.Machine.Floating
import Runbook.Machine.Numeral
import Runbook.Machine.Quoting

/-! # Formatted output

A format is text with directives for arguments; it is used again as long as there are arguments. There
are two kinds of programs that write in this way, a program of its own and a command of the shell.
Texts are octet texts.

* **`Printf.Dialect`** — what differs between them.
* **`Printf.Dialect.run`** — what is written for a format and arguments. -/

namespace Runbook.Printf

/-- What is wrong with an argument that should be a number. -/
inductive NumberFault where
  /-- It does not begin with one. -/
  | missing
  /-- Something follows the number. -/
  | partly
  /-- It is out of reach. -/
  | outOfRange
  deriving DecidableEq, Repr

/-- What differs between the kinds of programs. -/
structure Dialect where
  /-- The escapes of a format. -/
  formatRules : EscapeRules
  /-- The escapes of an argument that asks for them. -/
  argumentRules : EscapeRules
  /-- The complaint about a number. -/
  numberComplaint : NumberFault → (argument : String) → String
  /-- The complaint about what is no directive. -/
  unknownComplaint : (directive : String) → String
  /-- The complaint about a directive that ends with the format. -/
  openComplaint : (directive : String) → String
  /-- The complaint about a size of a field that is out of reach, which ends the output. Without one the
  size loses what is out of reach. -/
  sizeComplaint : Option ((what argument : String) → String)
  /-- The notice about what follows a character that stands for its number. -/
  tailNotice : (tail : String) → List String
  /-- The notice about arguments that the format does not use. -/
  excessNotice : (argument : String) → List String
  /-- The complaint that there is no format. -/
  formatMissing : List String
  /-- The code after a wrong directive. -/
  wrongDirective : Nat
  /-- The code when an escape has stopped all output, if nothing that went wrong before counts. -/
  stopCode : Option Nat
  /-- Whether a directive with a flag that its letter does not take is none, and sizes of numbers may
  stand before the letter. -/
  choosy : Bool
  /-- Whether a number that something follows may be out of reach nevertheless. -/
  reachFirst : Bool
  /-- The letters of directives. -/
  letters : List Char
  /-- The numbers with a fraction. -/
  floats : FloatFormat

/-- The program of a name. -/
def Dialect.program (name : String) : Dialect where
  formatRules := ⟨true, false, true, true, true, true, true, true⟩
  argumentRules := ⟨true, true, true, true, true, true, true, true⟩
  numberComplaint fault argument :=
    Quoting.visible argument ++ match fault with
      | .missing => ": expected a numeric value"
      | .partly => ": value not completely converted"
      | .outOfRange => ": Numerical result out of range"
  unknownComplaint directive := directive ++ ": invalid conversion specification"
  openComplaint directive := directive ++ ": invalid conversion specification"
  sizeComplaint := some fun what argument => "invalid " ++ what ++ ": " ++ Quoting.visible argument
  tailNotice tail :=
    ["warning: " ++ tail ++ ": character(s) following character constant have been ignored"]
  excessNotice argument :=
    ["warning: ignoring excess arguments, starting with " ++ Quoting.visible argument]
  formatMissing := ["missing operand\nTry '" ++ name ++ " --help' for more information."]
  wrongDirective := 1
  stopCode := some 0
  choosy := true
  reachFirst := true
  letters := "sbqcdiouxXaAeEfFgG".toList
  floats := .extended

/-- The command of the shell. -/
def Dialect.shell : Dialect where
  formatRules := ⟨true, false, false, false, false, false, false, false⟩
  argumentRules := ⟨true, true, false, false, false, true, false, false⟩
  numberComplaint fault argument :=
    argument ++ match fault with
      | .missing => ": expected numeric value"
      | .partly => ": not completely converted"
      | .outOfRange => ": Numerical result out of range"
  unknownComplaint directive := directive ++ ": invalid directive"
  openComplaint _ := "missing format character"
  sizeComplaint := none
  tailNotice _ := []
  excessNotice _ := []
  formatMissing := ["usage: printf format [arg ...]"]
  wrongDirective := 2
  stopCode := none
  choosy := false
  reachFirst := false
  letters := "sbcdiouxXaAeEfFgG".toList
  floats := .double

/-! ### Directives -/

/-- A width or a precision. -/
inductive Extent where
  /-- None is given. -/
  | absent
  /-- It stands in the format. -/
  | fixed (size : Nat)
  /-- It is an argument. -/
  | argument
  deriving DecidableEq, Repr

/-- The shape of the field in which an argument is written. -/
structure Shape where
  /-- The flags. -/
  flags : List Char
  /-- The least width of the field. -/
  width : Extent
  /-- How many characters of a text are written, or how many digits of a number. -/
  precision : Extent
  /-- Whether nothing stands between the percent sign and the letter. -/
  bare : Bool

/-- How an argument is written. -/
structure Directive where
  /-- The shape of its field. -/
  shape : Shape
  /-- The letter that says what is written. -/
  letter : Char

/-- A piece of a format. -/
inductive Piece where
  /-- Bytes that stand for themselves. -/
  | plain (bytes : Bytes)
  /-- An argument. -/
  | directive (directive : Directive)
  /-- The format ends before its text does. -/
  | ending (how : EscapeEnd)
  /-- What is no directive, with the shape of its field and the complaint about it. -/
  | wrong (shape : Shape) (complaint : String)

/-- The extent at the start of a text, and what follows it. Where directives are chosen freely, a star
may stand among digits and means nothing. -/
def Dialect.readExtent (dialect : Dialect) (text : List Char) : Extent × List Char :=
  match text with
  | '*' :: rest => (.argument, rest)
  | _ =>
    let isPart (c : Char) : Bool := c.isDigit || (!dialect.choosy && c == '*')
    let digits := (text.takeWhile isPart).filter Char.isDigit
    (if digits.isEmpty then .absent else .fixed (Escape.number 10 digits), text.dropWhile isPart)

/-- The shape of the field of a directive whose percent sign has been passed, and what follows it from
the letter on. -/
def Dialect.readShape (dialect : Dialect) (text : List Char) : Shape × List Char :=
  let isFlag (c : Char) : Bool :=
    "-0+ #".toList.contains c || (dialect.choosy && (c == '\'' || c == 'I'))
  let isSize (c : Char) : Bool := dialect.choosy && "hlLjtz".toList.contains c
  let flags := text.takeWhile isFlag
  let (width, rest) := dialect.readExtent (text.dropWhile isFlag)
  let (precision, rest) := match rest with
    | '.' :: rest =>
      match dialect.readExtent rest with
      | (.absent, rest) => (Extent.fixed 0, rest)
      | found => found
    | rest => (.absent, rest)
  let rest := rest.dropWhile isSize
  (⟨flags, width, precision, rest.length = text.length⟩, rest)

/-- Whether the flags of a directive fit its letter. -/
def Directive.isFitting (directive : Directive) : Bool :=
  let has (some : String) : Bool := directive.shape.flags.any some.toList.contains
  match directive.letter with
  | 's' => !has "0#'I"
  | 'c' => !has "0#'I" && directive.shape.precision == .absent
  | 'b' | 'q' => directive.shape.bare
  | 'd' | 'i' | 'u' => !has "#"
  | 'a' | 'A' | 'e' | 'E' | 'o' | 'x' | 'X' => !has "'I"
  | _ => true

/-- Whether a directive is known. -/
def Dialect.knows (dialect : Dialect) (directive : Directive) : Bool :=
  dialect.letters.contains directive.letter && (!dialect.choosy || directive.isFitting)

/-- The pieces of a format. -/
def Dialect.pieces (dialect : Dialect) : (fuel : Nat) → List Char → List Piece
  | 0, _ => []
  | _ + 1, [] => []
  | fuel + 1, '\\' :: rest =>
    match Escape.read dialect.formatRules rest with
    | .error how => [.ending how]
    | .ok (bytes, length) => .plain bytes :: dialect.pieces fuel (rest.drop length)
  | fuel + 1, '%' :: '%' :: rest => .plain [37] :: dialect.pieces fuel rest
  | fuel + 1, '%' :: rest =>
    match dialect.readShape rest with
    | (shape, []) => [.wrong shape (dialect.openComplaint (String.ofList ('%' :: rest)))]
    | (shape, letter :: after) =>
      let text := '%' :: rest.take (rest.length - after.length)
      if dialect.knows ⟨shape, letter⟩ then .directive ⟨shape, letter⟩ :: dialect.pieces fuel after
      else [.wrong shape (dialect.unknownComplaint (String.ofList text))]
  | fuel + 1, c :: rest => .plain [Escape.byteOf c] :: dialect.pieces fuel rest

/-! ### Arguments -/

/-- What an argument comes to, with complaints about it. -/
structure Reading (α : Type) where
  /-- What it comes to. -/
  value : α
  /-- What is wrong with it. -/
  fault : Option NumberFault
  /-- What follows a character that stands for its number. -/
  tail : String

/-- The number of the character behind a quote, if an argument begins with one. -/
def Dialect.character? (dialect : Dialect) (argument : List Char) : Option (Nat × List Char) :=
  match argument with
  | quote :: rest =>
    if quote == '"' || quote == '\'' then
      match rest with
      | [] => if dialect.choosy then none else some (0, [])
      | c :: tail => some (c.toNat, tail)
    else none
  | [] => none

/-- What is wrong with a number of which `rest` is left of an argument. -/
def Dialect.fault? (dialect : Dialect) (argument rest : List Char) (outOfRange : Bool) :
    Option NumberFault :=
  if outOfRange && (dialect.reachFirst || rest.isEmpty) then some .outOfRange
  else if rest.isEmpty then none
  else if rest.length = argument.length then some .missing
  else some .partly

/-- The integer that an argument writes as far as it does. A quote before a character stands for its
number. -/
def Dialect.integer (dialect : Dialect) (signed : Bool) (argument : String) : Reading Int :=
  let text := argument.toList
  match dialect.character? text with
  | some (code, tail) => ⟨code, none, String.ofList tail⟩
  | none =>
    let (n, rest) := Numeral.read .marked text
    let (n, outOfRange) := Numeral.inReach signed n
    ⟨n, dialect.fault? text rest outOfRange, ""⟩

/-- The number that an argument writes as far as it does. -/
def Dialect.floating (dialect : Dialect) (argument : String) : Reading Floating :=
  let text := argument.toList
  match dialect.character? text with
  | some (code, tail) => ⟨⟨false, (dialect.floats.nearest code 1).1⟩, none, String.ofList tail⟩
  | none =>
    match Floating.parse dialect.floats text with
    | some (number, outOfRange, rest) => ⟨number, dialect.fault? text rest outOfRange, ""⟩
    | none => ⟨⟨false, .finite 0 dialect.floats.least⟩, dialect.fault? text text false, ""⟩

/-- The complaints about an argument. -/
def Dialect.complaints {α : Type} (dialect : Dialect) (argument : String) (reading : Reading α) :
    List String :=
  match reading.fault with
  | some fault => [dialect.numberComplaint fault argument]
  | none => []

/-- The notices about an argument, which are no complaints. -/
def Dialect.notices {α : Type} (dialect : Dialect) (reading : Reading α) : List String :=
  if reading.tail.isEmpty then [] else dialect.tailNotice reading.tail

/-! ### Fields -/

/-- Bytes in a field of at least a width. -/
def pad (width : Nat) (left : Bool) (bytes : Bytes) : Bytes :=
  let filling := List.replicate (width - bytes.length) 32
  if left then bytes ++ filling else filling ++ bytes

/-- A directive whose width and precision are known. -/
structure Field where
  /-- The flags. -/
  flags : List Char
  /-- The least width of the field. -/
  width : Nat
  /-- How many characters of a text are written, or how many digits of a number. -/
  precision : Option Nat
  /-- The letter that says what is written. -/
  letter : Char

namespace Field

/-- Whether a field stands at the left. -/
def left (field : Field) : Bool := field.flags.contains '-'

/-- Whether a field is for integers with a sign. -/
def signed (field : Field) : Bool := field.letter == 'd' || field.letter == 'i'

/-- Whether a field is for numbers with a fraction. -/
def floating (field : Field) : Bool := "aAeEfFgG".toList.contains field.letter

/-- The mark of the base of an integer that is written with some digits. -/
def mark (field : Field) (digits : List Char) (isZero : Bool) : List Char :=
  if !field.flags.contains '#' then []
  else
    match field.letter with
    | 'x' => if isZero then [] else ['0', 'x']
    | 'X' => if isZero then [] else ['0', 'X']
    | 'o' => if digits.head? == some '0' then [] else ['0']
    | _ => []

/-- The sign of a number that can have one. -/
def sign (field : Field) (negative : Bool) : List Char :=
  if negative then ['-']
  else if field.flags.contains '+' then ['+']
  else if field.flags.contains ' ' then [' ']
  else []

/-- The bytes of a number: its start, to which a sign belongs, and its digits. Zeros may fill the
field between them. -/
def fill (field : Field) (zeros : Bool) (start digits : List Char) : Bytes :=
  let bytes (text : List Char) : Bytes := text.map Escape.byteOf
  if zeros && field.flags.contains '0' && !field.left then
    let filling := List.replicate (field.width - start.length - digits.length) '0'
    bytes (start ++ filling ++ digits)
  else pad field.width field.left (bytes (start ++ digits))

/-- The bytes of an integer. -/
def integer (field : Field) (n : Int) : Bytes :=
  let size := if field.signed || 0 ≤ n then n.natAbs else (n + Nat.pow 2 64).toNat
  let base := match field.letter with
    | 'o' => 8
    | 'x' | 'X' => 16
    | _ => 10
  let digits := if size = 0 ∧ field.precision = some 0 then [] else Nat.toDigits base size
  let digits := if field.letter == 'X' then digits.map Char.toUpper else digits
  let digits := List.replicate (field.precision.getD 0 - digits.length) '0' ++ digits
  let sign := if field.signed then field.sign (n < 0) else []
  field.fill field.precision.isNone (sign ++ field.mark digits (size = 0)) digits

/-- The bytes of a number with a fraction. -/
def number (floats : FloatFormat) (field : Field) (n : Floating) : Bytes :=
  let full := field.flags.contains '#'
  let places := field.precision.getD 6
  let small := match n.size with
    | .infinite => ['i', 'n', 'f']
    | .undefined => ['n', 'a', 'n']
    | .finite mantissa exponent =>
      let (num, den) := Floating.quotient mantissa exponent
      match field.letter.toLower with
      | 'f' => Floating.fixed num den places full
      | 'e' => Floating.scientific num den places full
      | 'g' => Floating.general num den places full
      | _ => Floating.hexadecimal floats mantissa exponent field.precision full
  let text := if field.letter.isUpper then small.map Char.toUpper else small
  let finite := match n.size with
    | .finite .. => true
    | _ => false
  -- zeros that fill the field stand behind the mark of the base
  let base := if finite && field.letter.toLower == 'a' then 2 else 0
  field.fill finite (field.sign n.negative ++ text.take base) (text.drop base)

/-- The bytes of a text in a field. -/
def text (field : Field) (bytes : Bytes) : Bytes :=
  pad field.width field.left (bytes.take (field.precision.getD bytes.length))

end Field

/-- The arguments that are left, and the complaints about those that have been taken. -/
structure Taken where
  /-- What is left. -/
  rest : List String
  /-- The complaints. -/
  complaints : List String

/-- The least number that is too great for a size. -/
def sizeLimit : Int := Nat.pow 2 31

/-- The size that an extent asks for. It may be an argument, which may be out of reach. -/
def Dialect.size (dialect : Dialect) (what : String) (extent : Extent) :
    StateT Taken (Except (List String)) (Option Int) := fun taken =>
  match extent with
  | .absent => .ok (none, taken)
  | .fixed size => .ok (some size, taken)
  | .argument =>
    match taken.rest with
    | [] => .ok (some 0, taken)
    | argument :: rest =>
      let reading := dialect.integer true argument
      let n := reading.value
      let taken := ⟨rest, taken.complaints ++ dialect.complaints argument reading⟩
      match dialect.sizeComplaint with
      | none => .ok (some ((n + sizeLimit) % (2 * sizeLimit) - sizeLimit), taken)
      | some complaint =>
        -- any precision below zero is none
        if n < sizeLimit ∧ (-sizeLimit ≤ n ∨ what = "precision") then .ok (some n, taken)
        else .error (taken.complaints ++ [complaint what argument])

/-- The field of a shape. A width below zero is one at the left, and a precision below zero is none. -/
def Dialect.field (dialect : Dialect) (shape : Shape) (letter : Char) :
    StateT Taken (Except (List String)) Field := do
  let width ← dialect.size "field width" shape.width
  let precision ← dialect.size "precision" shape.precision
  let width := width.getD 0
  pure
    { flags := if width < 0 then '-' :: shape.flags else shape.flags
      width := width.natAbs
      precision := precision.bind fun n => if n < 0 then none else some n.toNat
      letter }

/-- What an argument comes to. -/
structure Rendered where
  /-- The bytes. -/
  bytes : Bytes
  /-- How the bytes end. -/
  ending : EscapeEnd
  /-- The complaints about the argument. -/
  complaints : List String
  /-- The notices about the argument. -/
  notices : List String

/-- What an argument comes to in a field. -/
def Dialect.render (dialect : Dialect) (field : Field) (argument : Option String) : Rendered :=
  let text := argument.getD ""
  match field.letter with
  | 's' => ⟨field.text (Octets.toBytes text), .complete, [], []⟩
  | 'b' =>
    let (bytes, ending) := Escape.expand dialect.argumentRules text
    ⟨field.text bytes, ending, [], []⟩
  | 'q' => ⟨(argument.map fun text => Octets.toBytes (Quoting.reusable text)).getD [], .complete,
      [], []⟩
  | 'c' =>
    let bytes := if text.isEmpty then [0] else (Octets.toBytes text).take 1
    ⟨pad field.width field.left bytes, .complete, [], []⟩
  | _ =>
    if field.floating then
      let reading := dialect.floating text
      ⟨field.number dialect.floats reading.value, .complete, dialect.complaints text reading,
        dialect.notices reading⟩
    else
      let reading := dialect.integer field.signed text
      ⟨field.integer reading.value, .complete, dialect.complaints text reading,
        dialect.notices reading⟩

/-! ### Passes over a format -/

/-- What has been written. -/
structure Written where
  /-- To the standard output. -/
  out : Bytes
  /-- The complaints and notices. -/
  messages : List String
  /-- The exit code. -/
  code : Nat
  /-- The arguments that are left. -/
  rest : List String
  /-- Whether all output has stopped. -/
  stopped : Bool
  /-- Whether an escape has done that. -/
  escaped : Bool

namespace Written

/-- What is written when something ends the output. -/
def ended (how : EscapeEnd) (rest : List String) : Written :=
  if how = .faulty then ⟨[], ["missing hexadecimal number in escape"], 1, rest, true, false⟩
  else ⟨[], [], 0, rest, true, true⟩

/-- What is written after bytes and messages, of which some are complaints. -/
def after (bytes : Bytes) (complaints notices : List String) (written : Written) : Written :=
  { written with
    out := bytes ++ written.out
    messages := complaints ++ notices ++ written.messages
    code := if complaints.isEmpty then written.code else max 1 written.code }

end Written

/-- What is written when the format goes wrong. -/
def Dialect.failed (dialect : Dialect) (complaints : List String) : Written :=
  ⟨[], complaints, dialect.wrongDirective, [], true, false⟩

/-- Writes the pieces of a format once. -/
def Dialect.pass (dialect : Dialect) : List Piece → List String → Written
  | [], rest => ⟨[], [], 0, rest, false, false⟩
  | .ending how :: _, rest => .ended how rest
  | .plain bytes :: pieces, rest => (dialect.pass pieces rest).after bytes [] []
  | .wrong shape complaint :: _, rest =>
    match (dialect.field shape ' ').run ⟨rest, []⟩ with
    | .error complaints => dialect.failed complaints
    | .ok (_, taken) => dialect.failed (taken.complaints ++ [complaint])
  | .directive directive :: pieces, rest =>
    match (dialect.field directive.shape directive.letter).run ⟨rest, []⟩ with
    | .error complaints => dialect.failed complaints
    | .ok (field, ⟨rest, complaints⟩) =>
      let rendered := dialect.render field rest.head?
      (if rendered.ending = .complete then dialect.pass pieces (rest.drop 1)
        else Written.ended rendered.ending (rest.drop 1)).after rendered.bytes
          (complaints ++ rendered.complaints) rendered.notices

/-- Writes the pieces of a format as often as there are arguments for them. -/
def Dialect.passes (dialect : Dialect) (pieces : List Piece) : (fuel : Nat) → List String → Written
  | 0, rest => ⟨[], [], 0, rest, true, false⟩
  | fuel + 1, rest =>
    let written := dialect.pass pieces rest
    if written.stopped || written.rest.isEmpty then written
    -- a pass that takes no argument would take none the next time either
    else if written.rest.length = rest.length then
      { written with
        messages := written.messages ++ dialect.excessNotice (rest.headD "") }
    else
      let more := dialect.passes pieces fuel written.rest
      { more.after written.out [] written.messages with code := max written.code more.code }

/-- What is written for arguments, of which the first is the format. -/
def Dialect.run (dialect : Dialect) : (arguments : List String) → Written
  | [] => ⟨[], dialect.formatMissing, dialect.wrongDirective, [], true, false⟩
  | format :: arguments =>
    let chars := format.toList
    let written := dialect.passes (dialect.pieces chars.length chars) (arguments.length + 1) arguments
    if written.escaped then { written with code := dialect.stopCode.getD written.code } else written

end Runbook.Printf
