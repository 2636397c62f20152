/-! # Sets of characters by ranges

* **`inRanges`** — whether a code point lies in one of the ranges of a sorted table, found by
  halving the table. -/

namespace Runbook.Text

/-- Whether `code` lies in one of the ranges that stand at the positions from `low` up to but not
including `low + count`. The ranges are disjoint and increase. -/
def inRangesBetween (ranges : Array (Nat × Nat)) (code low count : Nat) : Bool :=
  if count = 0 then false
  else
    let half := count / 2
    match ranges[low + half]? with
    | none => false
    | some (first, last) =>
      if code < first then inRangesBetween ranges code low half
      else if code ≤ last then true
      else inRangesBetween ranges code (low + half + 1) (count - half - 1)
termination_by count
decreasing_by all_goals omega

/-- Whether a code point lies in one of the ranges of a table. -/
def inRanges (ranges : Array (Nat × Nat)) (code : Nat) : Bool :=
  inRangesBetween ranges code 0 ranges.size

end Runbook.Text
