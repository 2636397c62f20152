import Runbook.Proofs.CommandLine.Joining
import Runbook.Proofs.Text.Trim
import Runbook.Steps.Script

/-! # Lines without the blanks around them

A script is run line by line, and each line is split without the blanks at its two ends. In front of a
line blanks mean nothing. Behind it they mean nothing either, unless a backslash takes the meaning of
the first one away: trimming then leaves the backslash with nothing to escape.

* **`CommandLine.EndsInEscapedBlank`** — the lines that trimming breaks.
* **`CommandLine.split_trimmed_iff`** — every other line keeps its words. -/

namespace Runbook.CommandLine

open Text (isBlank)

variable {a b line : String} {words : List String} {text : List Char}

/-! ## Blanks around a line -/

/-- Blanks in front of a line do not change whether it has words, and which. -/
theorem split_blanks_append (h : Text.isBlankText a = true) :
    split (a ++ b) = .ok words ↔ split b = .ok words := by
  have hblanks := reads_blanks (List.all_eq_true.mp h)
  constructor
  · intro hline
    have hrest := hblanks 0 b.toList
    rw [map_nil_append, ← String.toList_append, ← splitText, split_eq_ok_iff.mp hline] at hrest
    obtain ⟨finished, left, hreads, hwords⟩ := exists_reads_of_eq_ok hrest.symm
    exact hreads.split_eq hwords
  · intro hline
    obtain ⟨finished, left, hreads, hwords⟩ := exists_reads_of_split hline
    exact Reads.split_eq (String.toList_append ▸ hblanks.trans hreads) hwords

/-- Blanks behind a complete line do not change its words. -/
theorem split_append_blanks (ha : split a = .ok words) (h : Text.isBlankText b = true) :
    split (a ++ b) = .ok words := by
  by_cases hb : b = ""
  · rw [hb, String.append_empty]
    exact ha
  · have hnothing : split "" = .ok [] := rfl
    have hline := split_append ha ⟨b, hb, h⟩ hnothing
    rwa [String.append_empty, List.append_nil] at hline

/-- Blanks do not close a quote. -/
theorem Unclosed.append_blanks {quote : Char} {blanks : List Char} (h : Unclosed quote text)
    (hblanks : ∀ c ∈ blanks, isBlank c = true) : Unclosed quote (text ++ blanks) := by
  rcases h with ⟨rfl, htext⟩ | ⟨rfl, htext⟩
  · refine .inl ⟨rfl, fun hmem => ?_⟩
    rcases List.mem_append.mp hmem with hmem | hmem
    · exact htext hmem
    · exact (ne_of_isBlank (hblanks _ hmem)).2.1 rfl
  · refine .inr ⟨rfl, fun hmem => ?_⟩
    rcases mem_units_append hmem with hmem | hmem
    · exact htext hmem
    · exact (ne_of_isBlank (hblanks _ hmem)).2.2 rfl

/-- A quote that stays open does so in front of blanks. -/
theorem LeavesOpen.append_blanks {quote : Char} {position : Nat} (ha : LeavesOpen a quote position)
    (h : Text.isBlankText b = true) : LeavesOpen (a ++ b) quote position := by
  obtain ⟨before, behind, words, hbefore, rfl, hposition, hquote⟩ := ha
  refine ⟨before, behind ++ b, words, hbefore, String.append_assoc .., hposition, ?_⟩
  rw [String.toList_append]
  exact hquote.append_blanks (List.all_eq_true.mp h)

/-! ## Trimming a line -/

/-- **A line that ends in blanks of which a backslash escapes the first.** -/
def EndsInEscapedBlank (line : String) : Prop :=
  ∃ before words, ∃ gap : Gap, split before = .ok words ∧ line = before ++ "\\" ++ gap.text

/-- A line is what trimming leaves of it, between blanks. -/
theorem exists_blanks_around_trimmed (line : String) :
    ∃ front back : String, line = front ++ (Text.trimmed line ++ back) ∧
      Text.isBlankText front = true ∧ Text.isBlankText back = true := by
  obtain ⟨before, after, htext, hbefore, hafter⟩ := Text.exists_blanks_around_trim line.toList
  refine ⟨String.ofList before, String.ofList after, ?_, ?_, ?_⟩
  · rw [Text.trimmed, ← String.ofList_append, ← String.ofList_append, ← htext, String.ofList_toList]
  · simpa [Text.isBlankText] using hbefore
  · simpa [Text.isBlankText] using hafter

/-- Trimming leaves an escaped blank's backslash with nothing to escape. -/
theorem EndsInEscapedBlank.endsInEscape_trimmed (h : EndsInEscapedBlank line) :
    EndsInEscape (Text.trimmed line) := by
  obtain ⟨before, words, gap, hbefore, rfl⟩ := h
  have htrim : Text.trim (before ++ "\\" ++ gap.text).toList =
      Text.trimStart before.toList ++ ['\\'] := by
    have hline : (before ++ "\\" ++ gap.text).toList = before.toList ++ '\\' :: gap.text.toList := by
      simp
    rw [hline, Text.trim_append_cons_blanks (by decide) gap.isBlank_of_mem]
  -- The blanks in front of the line are dropped, too, which leaves it complete up to the backslash.
  have hfront : String.ofList (before.toList.takeWhile isBlank) ++
      String.ofList (Text.trimStart before.toList) = before := by
    rw [← String.ofList_append, Text.trimStart, List.takeWhile_append_dropWhile, String.ofList_toList]
  have hblank : Text.isBlankText (String.ofList (before.toList.takeWhile isBlank)) = true := by
    rw [Text.isBlankText, String.toList_ofList]
    exact List.all_takeWhile
  rw [← hfront] at hbefore
  refine ⟨_, words, (split_blanks_append hblank).mp hbefore, ?_⟩
  rw [Text.trimmed, htrim, String.ofList_append]

/-- A line without an escaped blank at its end keeps its words. -/
theorem split_trimmed (h : split line = .ok words) (hblank : ¬ EndsInEscapedBlank line) :
    split (Text.trimmed line) = .ok words := by
  obtain ⟨front, back, hline, hfront, hback⟩ := exists_blanks_around_trimmed line
  have hrest : split (Text.trimmed line ++ back) = .ok words :=
    (split_blanks_append hfront).mp (hline ▸ h)
  -- Of the faults that the trimmed line could have, blanks behind it mend none but a backslash.
  rcases split_cases (Text.trimmed line) with ⟨more, hmore⟩ | hescape | ⟨quote, position, hopen⟩
  · rw [split_append_blanks hmore hback] at hrest
    rw [hmore, hrest]
  · exfalso
    by_cases hempty : back = ""
    · rw [hempty, String.append_empty, hescape.split_eq] at hrest
      contradiction
    · obtain ⟨before, more, hbefore, htrimmed⟩ := hescape
      refine hblank ⟨front ++ before, more, ⟨back, hempty, hback⟩,
        (split_blanks_append hfront).mpr hbefore, ?_⟩
      rw [hline, htrimmed]
      simp only [String.append_assoc]
  · rw [(hopen.append_blanks hback).split_eq] at hrest
    contradiction

/-! ## The lines of a script -/

/-- A line goes on as long as there is no line feed. -/
theorem lines_go_of_no_break (h : '\n' ∉ text) (line : List Char) :
    Text.lines.go line text =
      if line.reverse ++ text = [] then [] else [line.reverse ++ text] := by
  induction text generalizing line with
  | nil => simp [Text.lines.go]
  | cons c text ih =>
    rw [List.mem_cons, not_or] at h
    rw [Text.lines.go, if_neg (Ne.symm h.1), ih h.2, List.reverse_cons, List.append_assoc,
      List.singleton_append]

/-- A text without a line feed is a single line, unless it is empty. -/
theorem lines_of_no_break (h : '\n' ∉ text) : Text.lines text = if text = [] then [] else [text] :=
  lines_go_of_no_break h []

/-- A script of a single line runs that line trimmed, or nothing if it is blank. -/
theorem scriptLines_of_no_break (h : '\n' ∉ line.toList) :
    ScriptStep.scriptLines line = if Text.isBlankText line then [] else [Text.trimmed line] := by
  have hblank : Text.isBlankText line = true ↔ Text.trim line.toList = [] := by
    rw [Text.trim_eq_nil_iff, Text.isBlankText, List.all_eq_true]
  rw [ScriptStep.scriptLines, lines_of_no_break h]
  by_cases hline : line.toList = []
  · simp [hline, Text.isBlankText]
  · by_cases htrim : Text.trim line.toList = []
    · simp [hline, htrim, hblank.mpr htrim]
    · simp [hline, htrim, hblank, Text.trimmed]

/-- **A line of a script keeps its words unless it ends in an escaped blank.** It is split trimmed; that
gives the words it has as it is written, except where a backslash escapes the first of the blanks at
its end, and then it gives an error. -/
theorem split_trimmed_iff (hline : '\n' ∉ line.toList) (h : split line = .ok words) :
    ScriptStep.scriptLines line = (if Text.isBlankText line then [] else [Text.trimmed line]) ∧
    (split (Text.trimmed line) = .ok words ↔ ¬ EndsInEscapedBlank line) ∧
    (EndsInEscapedBlank line → split (Text.trimmed line) = .error .trailingEscape) := by
  have hfails : EndsInEscapedBlank line → split (Text.trimmed line) = .error .trailingEscape :=
    fun hblank => hblank.endsInEscape_trimmed.split_eq
  refine ⟨scriptLines_of_no_break hline, ⟨fun hwords hblank => ?_, split_trimmed h⟩, hfails⟩
  rw [hfails hblank] at hwords
  contradiction

/-- The blanks around this line are not escaped, the one in its quotes is kept. -/
theorem split_trimmed_indentedLine :
    '\n' ∉ "\t echo 'a ' ".toList ∧ split "\t echo 'a ' " = .ok ["echo", "a "] ∧
    split (Text.trimmed "\t echo 'a ' ") = .ok ["echo", "a "] ∧
    ¬ EndsInEscapedBlank "\t echo 'a ' " := by
  have hline : '\n' ∉ "\t echo 'a ' ".toList := by decide
  have hwords : split "\t echo 'a ' " = .ok ["echo", "a "] := by decide
  have htrimmed : split (Text.trimmed "\t echo 'a ' ") = .ok ["echo", "a "] := by decide
  exact ⟨hline, hwords, htrimmed, (split_trimmed_iff hline hwords).2.1.mp htrimmed⟩

/-- The last word of this line is a letter and a blank, and trimming breaks it. -/
theorem split_trimmed_loses_blank :
    '\n' ∉ "printf '[%s]' a\\ ".toList ∧
    split "printf '[%s]' a\\ " = .ok ["printf", "[%s]", "a "] ∧
    ScriptStep.scriptLines "printf '[%s]' a\\ " = [Text.trimmed "printf '[%s]' a\\ "] ∧
    split (Text.trimmed "printf '[%s]' a\\ ") = .error .trailingEscape := by
  decide

end Runbook.CommandLine
