import Runbook.Text.Blank

/-! # Field paths

A path selects a part of a value. Its segments are words between dots, or the insides of brackets,
which may hold any text but a closing bracket: `items[0].name` has the segments `items`, `0` and
`name`.

* **`Path.parse?`** — the segments of a path; there is at least one and none is empty.
* **`Path.position?`** — a segment as a position in a sequence. -/

namespace Runbook.Path

mutual

/-- The segments of a text whose current word is `word` (held in reverse). `closed` says that a
bracket ended just before, so that no word is needed here. -/
def segments? (word : List Char) (closed : Bool) : List Char → Option (List (List Char))
  | [] =>
    if word.isEmpty then (if closed then some [] else none) else some [word.reverse]
  | '.' :: rest =>
    if word.isEmpty then (if closed then segments? [] false rest else none)
    else (segments? [] false rest).map (word.reverse :: ·)
  | '[' :: rest =>
    if word.isEmpty then bracket? [] rest else (bracket? [] rest).map (word.reverse :: ·)
  | c :: rest => segments? (c :: word) false rest

/-- The segments of a text that begins inside a bracket, after the characters `inner` (held in
reverse). -/
def bracket? (inner : List Char) : List Char → Option (List (List Char))
  | [] => none
  | ']' :: rest =>
    let segment := Text.trim inner.reverse
    if segment.isEmpty then none else (segments? [] true rest).map (segment :: ·)
  | c :: rest => bracket? (c :: inner) rest

end

/-- The segments of a path. -/
def parse? (text : List Char) : Option (List String) :=
  (segments? [] false text).map fun segments => segments.map String.ofList

/-- The position that a segment names in a sequence: decimal digits after an optional plus sign,
below `2 ^ 64`. -/
def position? (segment : String) : Option Nat :=
  let digits := match segment.toList with
    | '+' :: rest => rest
    | rest => rest
  if digits.isEmpty || !digits.all Char.isDigit then none
  else
    let value := digits.foldl (fun total c => total * 10 + (c.toNat - 48)) 0
    if value < Nat.pow 2 64 then some value else none

end Runbook.Path
