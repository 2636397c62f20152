import Runbook.Machine.Escape

/-! # Permissions that new files do not get

* **`Mask.numeral`**, **`Mask.symbols`** — such permissions as a number and in letters.
* **`Mask.ofNumeral?`**, **`Mask.ofSymbols?`** — what a text asks for. -/

namespace Runbook.Shell.Mask

/-- Permissions as a number of base eight with four digits. -/
def numeral (mask : Nat) : String :=
  let digits := Nat.toDigits 8 mask
  String.ofList (List.replicate (4 - digits.length) '0' ++ digits)

/-- The permissions of a kind of user among all: the owner comes first, then the group, then others. -/
def share (index permissions : Nat) : Nat := (permissions >>> (3 * (2 - index))) % 8

/-- All permissions when a kind of user has some. -/
def spread (shares : List Nat) : Nat := shares.foldl (fun all share => all * 8 + share) 0

/-- The letters of the permissions of a kind of user. -/
def letters (share : Nat) : String :=
  (if share.testBit 2 then "r" else "") ++ (if share.testBit 1 then "w" else "")
    ++ (if share.testBit 0 then "x" else "")

/-- The permissions that new files get, in letters. -/
def symbols (mask : Nat) : String :=
  let given (index : Nat) : String := letters (7 - share index mask)
  "u=" ++ given 0 ++ ",g=" ++ given 1 ++ ",o=" ++ given 2

/-- The permissions that a number of base eight stands for. -/
def ofNumeral? (text : String) : Option Nat :=
  if text.toList.all Escape.isOctal then some (Escape.number 8 text.toList % 512) else none

/-- What is done with permissions. -/
structure Change where
  /-- Whether they are given, taken away, or the only ones. -/
  operator : Char
  /-- The letters of the permissions. -/
  letters : List Char

/-- The changes that a text asks for. -/
def changes? : (fuel : Nat) → List Char → Option (List Change)
  | 0, _ => none
  | _ + 1, [] => some []
  | fuel + 1, operator :: rest =>
    if "+-=".toList.contains operator then
      let letters := rest.takeWhile fun c => "rwxXsugo".toList.contains c
      (changes? fuel (rest.drop letters.length)).map (⟨operator, letters⟩ :: ·)
    else none

/-- The permissions of a kind of user that a letter stands for, among shares of all kinds. -/
def valueOf (shares : List Nat) : Char → Nat
  | 'r' => 4
  | 'w' => 2
  | 'x' => 1
  | 'X' => if shares.any fun share => share.testBit 0 then 1 else 0
  | 'u' => shares.getD 0 0
  | 'g' => shares.getD 1 0
  | 'o' => shares.getD 2 0
  | _ => 0

/-- The permissions of a kind of user after a change. -/
def Change.apply (change : Change) (shares : List Nat) (share : Nat) : Nat :=
  let value := change.letters.foldl (fun value c => value ||| valueOf shares c) 0
  match change.operator with
  | '+' => share ||| value
  | '-' => share &&& (7 - value)
  | _ => value

/-- The shares of all kinds of users after what one clause of a text asks for. -/
def clause? (clause : List Char) (shares : List Nat) : Option (List Nat) := do
  let isUser (c : Char) : Bool := "ugoa".toList.contains c
  let users := clause.takeWhile isUser
  let rest := clause.drop users.length
  if rest.isEmpty then none
  let changes ← changes? (rest.length + 1) rest
  let affected (index : Nat) : Bool :=
    users.isEmpty || users.contains 'a' || users.contains ("ugo".toList.getD index 'a')
  some (changes.foldl (fun shares change =>
    shares.zipIdx.map fun (share, index) =>
      if affected index then change.apply shares share else share) shares)

/-- The permissions that new files do not get after what a text asks for. -/
def ofSymbols? (mask : Nat) (text : String) : Option Nat := do
  let start := [0, 1, 2].map fun index => 7 - share index mask
  let clauses := text.toList.splitOnP (· == ',')
  -- a comma may stand behind the last clause
  let clauses := if clauses.length = 1 || clauses.getLast? != some [] then clauses
    else clauses.dropLast
  let shares ← clauses.foldlM (fun shares clause => clause? clause shares)
    start
  some (spread (shares.map (7 - ·)))

end Runbook.Shell.Mask
