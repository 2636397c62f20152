import Runbook.Text.Utf8

/-! # Showing what is in files

* **`ShowOptions`** — what is made visible, which lines get numbers, and which empty lines are left
  out.
* **`ShowProgress`** — how far bytes have been shown.
* **`ShowOptions.apply`** — bytes as they are shown. -/

namespace Runbook

/-- How bytes are shown. -/
structure ShowOptions where
  /-- Lines get numbers. -/
  number : Bool
  /-- Lines that are not empty get numbers. -/
  numberFilled : Bool
  /-- Of several empty lines only one is shown. -/
  squeeze : Bool
  /-- The ends of lines are shown. -/
  ends : Bool
  /-- Tabs are shown. -/
  tabs : Bool
  /-- Other bytes that cannot be seen are shown. -/
  hidden : Bool
  deriving DecidableEq, Repr

/-- How far bytes have been shown. -/
structure ShowProgress where
  /-- The number of the last line that got one. -/
  line : Nat
  /-- Whether a line begins. -/
  start : Bool
  /-- How many empty lines stand right before it. -/
  blanks : Nat
  /-- Whether a carriage return has not been shown yet, which may belong to the end of its line. -/
  held : Bool
  deriving DecidableEq, Repr

/-- The start of all bytes. -/
def ShowProgress.begin : ShowProgress := ⟨0, true, 0, false⟩

namespace ShowOptions

/-- Bytes as they are. -/
def none : ShowOptions := ⟨false, false, false, false, false, false⟩

/-- The options with the one that a letter asks for. -/
def add? (options : ShowOptions) : Char → Option ShowOptions
  | 'n' => some { options with number := true }
  | 'b' => some { options with numberFilled := true }
  | 's' => some { options with squeeze := true }
  | 'E' => some { options with ends := true }
  | 'T' => some { options with tabs := true }
  | 'v' => some { options with hidden := true }
  | 'e' => some { options with ends := true, hidden := true }
  | 't' => some { options with tabs := true, hidden := true }
  | 'A' => some { options with ends := true, tabs := true, hidden := true }
  | 'u' => some options
  | _ => Option.none

/-- The letters of the options that have long names. -/
def longNames : List (String × Char) :=
  [("number-nonblank", 'b'), ("number", 'n'), ("squeeze-blank", 's'), ("show-nonprinting", 'v'),
    ("show-ends", 'E'), ("show-tabs", 'T'), ("show-all", 'A')]

/-- A byte below 128 that is not seen otherwise, after a caret. -/
def caret (byte : UInt8) : Bytes := [94, byte ^^^ 64]

/-- A byte within a line. -/
def showByte (options : ShowOptions) (byte : UInt8) : Bytes :=
  if byte = 9 then if options.tabs then caret 9 else [9]
  else if !options.hidden then [byte]
  else
    let low := byte % 128
    let shown := if low < 32 ∨ low = 127 then caret low else [low]
    if byte < 128 then shown else [77, 45] ++ shown

/-- The number before a line. -/
def numberText (line : Nat) : Bytes :=
  let digits := Nat.toDigits 10 line
  (List.replicate (6 - digits.length) ' ' ++ digits ++ ['\t']).map fun c => UInt8.ofNat c.toNat

/-- Shows the next byte. -/
def step (options : ShowOptions) (progress : ShowProgress) (byte : UInt8) : Bytes × ShowProgress :=
  let next := progress.line + 1
  if byte = 10 then
    let held := if progress.held then caret 13 else []
    let ending := if options.ends then held ++ [36, 10] else [10]
    if !progress.start then (ending, ⟨progress.line, true, 0, false⟩)
    else if options.squeeze && 0 < progress.blanks then ([], progress)
    else if options.number && !options.numberFilled then
      (numberText next ++ ending, ⟨next, true, progress.blanks + 1, false⟩)
    else (ending, { progress with blanks := progress.blanks + 1 })
  else
    let held := if progress.held then [13] else []
    let holds := options.ends && !options.hidden && byte = 13
    let shown := if holds then [] else options.showByte byte
    if progress.start && (options.number || options.numberFilled) then
      (held ++ numberText next ++ shown, ⟨next, false, 0, holds⟩)
    else (held ++ shown, ⟨progress.line, false, 0, holds⟩)

/-- Shows the next bytes. -/
def apply (options : ShowOptions) (progress : ShowProgress) (bytes : Bytes) : Bytes × ShowProgress :=
  if options = none then (bytes, progress)
  else
    let (chunks, progress) := bytes.foldl
      (fun (chunks, progress) byte =>
        let (shown, progress) := options.step progress byte
        (shown :: chunks, progress))
      ([], progress)
    (chunks.reverse.flatten, progress)

end ShowOptions

end Runbook
