import Runbook.Machine.Escape

/-! # Limits of processes

How much of its resources a system lets a process have. The limit that holds can be moved up to the
highest one, and the highest one only down.

* **`Resource`** — what is limited, by a letter.
* **`Limits`** — the limits of a process.
* **`Limits.change`** — moves a limit. -/

namespace Runbook.Shell

/-- What is limited. -/
structure Resource where
  /-- Its letter. -/
  letter : Char
  /-- Its name and unit. -/
  name : String
  deriving DecidableEq, Repr

/-- All that is limited. -/
def Resource.all : List Resource :=
  [⟨'t', "time(seconds)"⟩, ⟨'f', "file(blocks)"⟩, ⟨'d', "data(kbytes)"⟩, ⟨'s', "stack(kbytes)"⟩,
    ⟨'c', "coredump(blocks)"⟩, ⟨'m', "memory(kbytes)"⟩, ⟨'l', "locked memory(kbytes)"⟩,
    ⟨'p', "process"⟩, ⟨'n', "nofiles"⟩, ⟨'v', "vmemory(kbytes)"⟩, ⟨'w', "locks"⟩, ⟨'r', "rtprio"⟩]

/-- An amount; without a number it is any. -/
abbrev Amount := Option Nat

namespace Amount

/-- Whether an amount is within another one. -/
def within (amount other : Amount) : Bool :=
  match amount, other with
  | _, none => true
  | none, some _ => false
  | some n, some m => n ≤ m

/-- The text of an amount. -/
def text (amount : Amount) : String := amount.elim "unlimited" toString

/-- The amount that a text asks for. -/
def ofText? (text : String) : Option Amount :=
  if text = "unlimited" then some none
  else if text.toList.all Char.isDigit then some (some (Escape.number 10 text.toList))
  else none

end Amount

/-- The limit of a resource. -/
structure Limit where
  /-- What holds. -/
  current : Amount
  /-- The highest that can hold. -/
  highest : Amount
  deriving DecidableEq, Repr

/-- The limits of a process by the letters of the resources; others are not limited. -/
abbrev Limits := List (Char × Limit)

namespace Limits

/-- The limits of a process about which nothing was said. -/
def usual : Limits :=
  [('s', ⟨some 8192, none⟩), ('c', ⟨some 0, none⟩), ('l', ⟨some 8192, some 8192⟩),
    ('n', ⟨some 1024, some 1048576⟩), ('r', ⟨some 0, some 0⟩)]

/-- The limit of a resource. -/
def get (limits : Limits) (letter : Char) : Limit := (limits.lookup letter).getD ⟨none, none⟩

/-- Moves what holds, the highest limit, or both, to an amount, unless that is not allowed. -/
def change (limits : Limits) (letter : Char) (amount : Amount) (current highest : Bool) :
    Except String Limits :=
  let old := limits.get letter
  let new : Limit :=
    ⟨if current then amount else old.current, if highest then amount else old.highest⟩
  if !new.current.within new.highest then .error "Invalid argument"
  else if !new.highest.within old.highest then .error "Operation not permitted"
  else .ok ((letter, new) :: limits.filter fun entry => entry.1 != letter)

end Limits

end Runbook.Shell
