import Runbook.Shell.Pattern

/-! # Fields

A word that has been expanded is divided into fields at characters that part words, but only where
the text comes from an expansion.

* **`Cell`**, **`Fragment`** — what an expanded word is made of.
* **`Separators`** — the characters that part words.
* **`Separators.fields`** — the fields of an expanded word.
* **`Fragment.word`** — the text of an expanded word that is not divided. -/

namespace Runbook.Shell

/-- A piece of an expanded word. -/
inductive Cell where
  /-- A character, and whether it stands for itself because it was quoted. -/
  | char (c : Char) (quoted : Bool)
  /-- The place of quotes, which make a word even if nothing stands between them. -/
  | mark
  deriving DecidableEq, Repr

/-- What parts words within a fragment. -/
inductive Parting where
  /-- Nothing. -/
  | nothing
  /-- The separators. -/
  | separators
  /-- Only a NUL, which stands between arguments. -/
  | arguments
  deriving DecidableEq, Repr

/-- A part of an expanded word. -/
structure Fragment where
  /-- What stands in it. -/
  cells : List Cell
  /-- What parts words within it. -/
  parting : Parting
  deriving DecidableEq, Repr

namespace Cell

/-- The cells of a text. -/
def ofText (quoted : Bool) (text : List Char) : List Cell := text.map fun c => .char c quoted

/-- The character of a cell, with whether it was quoted. -/
def entry? : Cell → Option (Char × Bool)
  | .char c quoted => some (c, quoted)
  | .mark => none

end Cell

namespace Fragment

/-- The characters of an expanded word that is not divided. -/
def pattern (fragments : List Fragment) : Pattern :=
  fragments.flatMap fun fragment => fragment.cells.filterMap Cell.entry?

/-- The text of an expanded word that is not divided. -/
def word (fragments : List Fragment) : String := String.ofList (pattern fragments).text

end Fragment

/-- The characters that part words. -/
structure Separators where
  /-- The characters. -/
  chars : List Char

namespace Separators

/-- The blanks among separators, which count as one if several follow one another. -/
def blanks : List Char := [' ', '\t', '\n']

/-- The separators of a shell in which none have been chosen. -/
def usual : Separators := ⟨blanks⟩

/-- A word that is being divided. -/
structure Division where
  /-- The fields that are complete, the latest first. -/
  complete : List (List Cell)
  /-- The field that is being put together, in reverse. -/
  current : List Cell
  /-- How many fields may still end before the last one, if there is a limit. -/
  room : Option Nat
  /-- The last field without the separators at its end, if there are any. -/
  trimmed : Option (List Cell)
  /-- Whether blanks that follow belong to the separator that was found. -/
  passing : Bool
  /-- What parts words in the fragment. -/
  parting : Parting
  /-- What parts words in the fragment before. -/
  before : Parting

namespace Division

/-- A word of which nothing has been seen. -/
def start (limit : Option Nat) : Division := ⟨[], [], limit, none, false, .nothing, .nothing⟩

/-- Adds a cell to the field that is being put together. -/
def push (division : Division) (cell : Cell) : Division :=
  { division with current := cell :: division.current }

/-- Ends a field. -/
def finish (division : Division) : Division :=
  { division with complete := division.current.reverse :: division.complete, current := [] }

/-- A character of the last field there is room for: separators at its end do not belong to it. -/
def last (division : Division) (separates blank : Bool) (cell : Cell) : Division :=
  let trimmed := division.trimmed
  let pushed := division.push cell
  if blank then { pushed with trimmed := some (trimmed.getD division.current) }
  else
    { pushed with
      trimmed := if separates && division.passing then trimmed else none
      passing := false }

/-- A character that separates and is not passed over. -/
def separate (division : Division) (blank : Bool) (cell : Cell) : Division :=
  let between := division.before != .arguments && division.parting != .arguments
  let passing := if between then blank else division.passing
  if division.current.isEmpty && passing then { division with passing := false }
  else
    let division := { division with passing }
    match division.room with
    | some 1 => { division.push cell with room := some 0, trimmed := some division.current }
    | room => { division.finish with room := room.map (· - 1) }

/-- The next character. -/
def step (separators : Separators) (division : Division) (cell : Cell) : Division :=
  match cell with
  | .mark => division.push cell
  | .char c _ =>
    let separates := c == '\x00' || (division.parting == .separators && separators.chars.contains c)
    let blank := separates && (c == '\x00' || blanks.contains c)
    if division.room == some 0 then division.last separates blank cell
    else if division.passing && blank then division
    else if division.passing && separates then { division with passing := false }
    else if separates then division.separate blank cell
    else { division.push cell with passing := false }

/-- The next fragment. -/
def fragment (separators : Separators) (division : Division) (fragment : Fragment) : Division :=
  match fragment.parting with
  | .nothing => fragment.cells.foldl push division
  | parting =>
    fragment.cells.foldl (step separators)
      { division with parting, before := division.parting, passing := false }

/-- The fields. -/
def fields (division : Division) : List (List Cell) :=
  let last := if division.parting = .arguments then some division.current
    else
      let current := division.trimmed.getD division.current
      if current.isEmpty then none else some current
  ((last.map List.reverse).toList ++ division.complete).reverse

end Division

/-- The fields of an expanded word. With a limit, the last of so many fields gets all that is left. -/
def fields (separators : Separators) (limit : Option Nat) (fragments : List Fragment) :
    List Pattern :=
  (fragments.foldl (Division.fragment separators) (Division.start limit)).fields.map
    fun cells => cells.filterMap Cell.entry?

end Separators

end Runbook.Shell
