import Runbook.Proofs.CommandLine.Reading

/-! # Lines that have no words

A line fails to be split in two ways, and both are told by the line alone: a complete line stands in
front of what is wrong, and nothing behind it puts it right.

* **`CommandLine.EndsInEscape`**, **`CommandLine.LeavesOpen`** — the two faults of a line.
* **`CommandLine.split_eq_error_exactly`** — each fault is reported exactly where it is there, and a
  line with neither has words. -/

namespace Runbook.CommandLine

variable {line : String} {quote : Char} {position : Nat}

/-- **A line that ends in a backslash with nothing to escape**: what stands in front of it is
complete. -/
def EndsInEscape (line : String) : Prop :=
  ∃ before words, split before = .ok words ∧ line = before ++ "\\"

/-- **A line that leaves a quote open**: what stands in front of the quote is complete and takes as
many bytes as the position says, and nothing behind it closes it. -/
def LeavesOpen (line : String) (quote : Char) (position : Nat) : Prop :=
  ∃ before behind words, split before = .ok words ∧ line = before ++ String.singleton quote ++ behind ∧
    position = before.utf8ByteSize ∧ Unclosed quote behind.toList

/-- A backslash with nothing to escape is reported. -/
theorem EndsInEscape.split_eq (h : EndsInEscape line) : split line = .error .trailingEscape := by
  obtain ⟨before, words, hbefore, rfl⟩ := h
  obtain ⟨finished, left, hreads, -⟩ := exists_reads_of_split hbefore
  rw [split_eq_error_iff, String.toList_append]
  exact hreads.splitPlain_append_escape 0

/-- A quote that stays open is reported, and so is its place. -/
theorem LeavesOpen.split_eq (h : LeavesOpen line quote position) :
    split line = .error (.unterminatedQuote quote position) := by
  obtain ⟨before, behind, words, hbefore, rfl, rfl, hquote⟩ := h
  obtain ⟨finished, left, hreads, -⟩ := exists_reads_of_split hbefore
  have htext : (before ++ String.singleton quote ++ behind).toList =
      before.toList ++ quote :: behind.toList := by
    simp
  rw [split_eq_error_iff, htext, splitText, hreads.splitPlain_append_unclosed hquote,
    String.utf8Len_toList, Nat.zero_add]

/-- **A line without words has one of the faults.** -/
theorem split_cases (line : String) : (∃ words, split line = .ok words) ∨ EndsInEscape line ∨
    ∃ quote position, LeavesOpen line quote position := by
  obtain ⟨front, ending, finished, left, htext, hreads, hending⟩ := exists_reading none line.toList
  -- What is read in front of the ending is a complete line of its own.
  have hfront : split (String.ofList front) = .ok ((finished ++ finish left).map String.ofList) :=
    Reads.split_eq (by rwa [String.toList_ofList]) (by simp [Function.comp_def])
  have hline : line = String.ofList front ++ String.ofList ending := by
    rw [← String.ofList_append, ← htext, String.ofList_toList]
  cases hending with
  | complete =>
    rw [String.ofList_nil, String.append_empty] at hline
    exact .inl ⟨_, hline ▸ hfront⟩
  | escape => exact .inr (.inl ⟨_, _, hfront, hline⟩)
  | @quote quote behind hquote =>
    have hquoted : String.ofList (quote :: behind) =
        String.singleton quote ++ String.ofList behind := by
      rw [String.singleton_eq_ofList, ← String.ofList_append, List.singleton_append]
    refine .inr (.inr ⟨quote, _, _, String.ofList behind, _, hfront, ?_, rfl, ?_⟩)
    · rw [hline, hquoted, String.append_assoc]
    · rwa [String.toList_ofList]

/-- The first fault is reported for no other line. -/
theorem endsInEscape_iff : split line = .error .trailingEscape ↔ EndsInEscape line := by
  refine ⟨fun h => ?_, EndsInEscape.split_eq⟩
  rcases split_cases line with ⟨words, hwords⟩ | hescape | ⟨quote, position, hopen⟩
  · rw [hwords] at h; contradiction
  · exact hescape
  · rw [hopen.split_eq] at h
    exact absurd (Except.error.inj h) (by simp)

/-- The second fault is reported for no other line and with no other quote or position. -/
theorem leavesOpen_iff :
    split line = .error (.unterminatedQuote quote position) ↔ LeavesOpen line quote position := by
  refine ⟨fun h => ?_, LeavesOpen.split_eq⟩
  rcases split_cases line with ⟨words, hwords⟩ | hescape | ⟨quote', position', hopen⟩
  · rw [hwords] at h; contradiction
  · rw [hescape.split_eq] at h
    exact absurd (Except.error.inj h) (by simp)
  · rw [hopen.split_eq] at h
    injection h with h
    injection h with hquote hposition
    rwa [hquote, hposition] at hopen

/-- **The errors are exact.** A line fails for its last backslash if and only if that has nothing to
escape, and for a quote if and only if that stays open where the error says; in all other cases it has
words. -/
theorem split_eq_error_exactly (line : String) :
    (split line = .error .trailingEscape ↔ EndsInEscape line) ∧
    (∀ quote position, split line = .error (.unterminatedQuote quote position) ↔
      LeavesOpen line quote position) ∧
    ((∃ words, split line = .ok words) ∨ EndsInEscape line ∨
      ∃ quote position, LeavesOpen line quote position) :=
  ⟨endsInEscape_iff, fun _ _ => leavesOpen_iff, split_cases line⟩

end Runbook.CommandLine
