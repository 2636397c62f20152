import Runbook.Proofs.CommandLine.Faults

/-! # Lines joined by blanks

Behind a complete line any blank ends the last word, so what follows it is split as if it stood alone.
Words written in quotes are complete lines, whatever characters they are made of.

* **`CommandLine.Gap`** — blanks between two parts of a line.
* **`CommandLine.split_append_gap`** — splitting goes part by part, errors and their positions
  included.
* **`CommandLine.Quoting`** — the two ways of writing a word in quotes.
* **`CommandLine.split_joined`** — words written in quotes are found again. -/

namespace Runbook.CommandLine

open Text (isBlank)

variable {word left : Option (List Char)} {blanks : List Char} {a b : String} {words more : List String}

/-! ## Gaps -/

/-- **A run of blanks**, at least one. -/
structure Gap where
  /-- The blanks. -/
  text : String
  ne_empty : text ≠ ""
  isBlankText : Text.isBlankText text = true

/-- Blanks that no word stands in front of do nothing. -/
theorem reads_blanks (h : ∀ c ∈ blanks, isBlank c = true) : Reads none blanks [] none := by
  induction blanks with
  | nil => exact reads_nil
  | cons c blanks ih =>
    have hfirst : Reads none [c] [] none := reads_blank (h c List.mem_cons_self)
    exact hfirst.trans (ih fun d hd => h d (List.mem_cons_of_mem c hd))

/-- The characters of a gap are blank. -/
theorem Gap.isBlank_of_mem (gap : Gap) : ∀ c ∈ gap.text.toList, isBlank c = true :=
  List.all_eq_true.mp gap.isBlankText

/-- A gap finishes the word in front of it. -/
theorem Gap.reads (gap : Gap) (word : Option (List Char)) :
    Reads word gap.text.toList (finish word) none := by
  have hblank := gap.isBlank_of_mem
  cases htext : gap.text.toList with
  | nil => exact absurd (String.toList_eq_nil_iff.mp htext) gap.ne_empty
  | cons c blanks =>
    rw [htext] at hblank
    have hfirst : Reads word [c] (finish word) none := reads_blank (hblank c List.mem_cons_self)
    have hrest := hfirst.trans (reads_blanks fun d hd => hblank d (List.mem_cons_of_mem c hd))
    rwa [List.append_nil] at hrest

/-! ## Splitting part by part -/

/-- **The words of both sides of a gap**, one after the other. -/
theorem split_append (ha : split a = .ok words) (gap : Gap) (hb : split b = .ok more) :
    split (a ++ gap.text ++ b) = .ok (words ++ more) := by
  obtain ⟨finished, left, hreads, hwords⟩ := exists_reads_of_split ha
  obtain ⟨finished', left', hreads', hmore⟩ := exists_reads_of_split hb
  have hline := (hreads.trans (gap.reads left)).trans hreads'
  rw [← String.toList_append, ← String.toList_append] at hline
  refine hline.split_eq ?_
  rw [List.map_append, hwords, hmore, List.append_assoc, List.append_assoc, List.append_assoc]

/-- A backslash with nothing to escape has nothing to escape behind a complete line either. -/
theorem EndsInEscape.append (ha : split a = .ok words) (gap : Gap) (hb : EndsInEscape b) :
    EndsInEscape (a ++ gap.text ++ b) := by
  obtain ⟨before, more, hbefore, rfl⟩ := hb
  exact ⟨_, _, split_append ha gap hbefore, (String.append_assoc ..).symm⟩

/-- A quote that stays open does so behind a complete line too, further on by its bytes. -/
theorem LeavesOpen.append {quote : Char} {position : Nat} (ha : split a = .ok words) (gap : Gap)
    (hb : LeavesOpen b quote position) :
    LeavesOpen (a ++ gap.text ++ b) quote (position + (a ++ gap.text).utf8ByteSize) := by
  obtain ⟨before, behind, more, hbefore, rfl, rfl, hquote⟩ := hb
  refine ⟨_, behind, _, split_append ha gap hbefore, ?_, ?_, hquote⟩
  · simp only [String.append_assoc]
  · simp only [String.utf8ByteSize_append]
    omega

/-- **Splitting goes part by part.** Behind a complete line and a gap, a line adds its words, or fails
as it fails alone; the position of a quote that stays open counts what stands in front. -/
theorem split_append_gap (ha : split a = .ok words) (gap : Gap) (b : String) :
    (∀ more, split b = .ok more → split (a ++ gap.text ++ b) = .ok (words ++ more)) ∧
    (split b = .error .trailingEscape → split (a ++ gap.text ++ b) = .error .trailingEscape) ∧
    ∀ quote position, split b = .error (.unterminatedQuote quote position) →
      split (a ++ gap.text ++ b) =
        .error (.unterminatedQuote quote (position + (a ++ gap.text).utf8ByteSize)) := by
  refine ⟨fun more hb => split_append ha gap hb, fun hb => ?_, fun quote position hb => ?_⟩
  · exact ((endsInEscape_iff.mp hb).append ha gap).split_eq
  · exact ((leavesOpen_iff.mp hb).append ha gap).split_eq

/-- A blank and a tab. -/
def sampleGap : Gap := ⟨" \t", by decide, by decide⟩

/-- The position of the quote counts the two bytes of a letter in front of it. -/
theorem split_append_sampleGap :
    split "echo 'é'" = .ok ["echo", "é"] ∧ split "x \"y" = .error (.unterminatedQuote '"' 2) ∧
    split ("echo 'é'" ++ sampleGap.text ++ "x \"y") =
      .error (.unterminatedQuote '"' (2 + ("echo 'é'" ++ sampleGap.text).utf8ByteSize)) := by
  have hfirst : split "echo 'é'" = .ok ["echo", "é"] := by decide
  have hsecond : split "x \"y" = .error (.unterminatedQuote '"' 2) := by decide
  exact ⟨hfirst, hsecond, (split_append_gap hfirst sampleGap _).2.2 _ _ hsecond⟩

/-! ## Words in quotes -/

/-- **A way of writing a word in quotes.** -/
inductive Quoting where
  /-- Between single quotes; one of the word's own stands behind a backslash, outside of them. -/
  | single
  /-- Between double quotes; a backslash stands in front of each character that it could escape and
  that would have a meaning without it. -/
  | double
  deriving DecidableEq, Repr

namespace Quoting

/-- The quote that a word is written between. -/
def mark : Quoting → Char
  | single => '\''
  | double => '"'

/-- How a character of a word is written. -/
def writeChar : Quoting → Char → List Char
  | single, c => if c = '\'' then ['\'', '\\', '\'', '\''] else [c]
  | double, c => if c ∈ ['"', '\\', '$', '`'] then ['\\', c] else [c]

/-- How a word is written. -/
def write (quoting : Quoting) (word : String) : String :=
  String.ofList (quoting.mark :: (word.toList.flatMap quoting.writeChar ++ [quoting.mark]))

end Quoting

/-- A text written between single quotes joins the word in front of it. -/
theorem splitSingle_written (text word : List Char) (start position : Nat) (rest : List Char) :
    splitSingle word start position (text.flatMap Quoting.single.writeChar ++ '\'' :: rest) =
      splitPlain (some (text.reverse ++ word))
        (position + String.utf8Len (text.flatMap Quoting.single.writeChar) + 1) rest := by
  induction text generalizing word start position with
  | nil => simp [splitSingle]
  | cons c text ih =>
    by_cases hc : c = '\''
    · -- The quotes are left, the backslash keeps the next one, and they are opened again.
      subst hc
      have hquote : '\''.utf8Size = 1 := rfl
      have hescape : '\\'.utf8Size = 1 := rfl
      have hwritten : Quoting.single.writeChar '\'' = ['\'', '\\', '\'', '\''] := rfl
      have hbreak : ¬ '\'' = '\n' := by decide
      simp only [List.flatMap_cons, hwritten, List.cons_append, List.nil_append, splitSingle,
        splitPlain_escape, splitPlain_single, if_true, if_neg hbreak, extend, Option.getD_some, ih, List.reverse_cons,
        List.append_assoc, String.utf8Len_cons, hquote, hescape]
      congr 1
      omega
    · have hwritten : Quoting.single.writeChar c = [c] := if_neg hc
      simp only [List.flatMap_cons, hwritten, List.cons_append, List.nil_append, splitSingle,
        if_neg hc, ih, List.reverse_cons, List.append_assoc, String.utf8Len_cons]
      congr 1
      omega

/-- Double quotes enclose a text as it is written between them. -/
theorem encloses_written (text : List Char) :
    Encloses (text.flatMap Quoting.double.writeChar) text := by
  induction text with
  | nil => exact encloses_nil
  | cons c text ih =>
    rw [List.flatMap_cons, Quoting.writeChar]
    by_cases hc : c ∈ ['"', '\\', '$', '`']
    · rw [if_pos hc]
      exact ih.escaped (by simpa [isQuotable, or_assoc] using hc)
    · rw [if_neg hc]
      simp only [List.mem_cons, not_or] at hc
      exact ih.plain hc.1 hc.2.1

/-- **A word written in quotes is that word**, on its own. -/
theorem split_write (quoting : Quoting) (word : String) :
    split (quoting.write word) = .ok [word] := by
  have hreads : Reads none (quoting.write word).toList [] (some word.toList.reverse) := by
    rw [Quoting.write, String.toList_ofList]
    cases quoting with
    | single =>
      refine reads_of_splitPlain fun position rest => ?_
      rw [Quoting.mark, List.cons_append, List.append_assoc, List.singleton_append,
        splitPlain_single, splitSingle_written, utf8Len_quoted rfl, ← Nat.add_assoc, ← Nat.add_assoc]
      simp
    | double =>
      have hwritten : Reads none _ [] _ := (encloses_written word.toList).reads
      rwa [Option.getD_none, List.append_nil] at hwritten
  exact hreads.split_eq (by simp [finish])

/-- A word with the way in which it is written. -/
structure QuotedWord where
  quoting : Quoting
  word : String
  deriving DecidableEq, Repr

/-- **A line of words in quotes**, with a gap behind each word but the last. -/
def joined : List QuotedWord → (Nat → Gap) → String
  | [], _ => ""
  | [word], _ => word.quoting.write word.word
  | word :: next :: words, gap =>
    word.quoting.write word.word ++ (gap 0).text ++ joined (next :: words) fun n => gap (n + 1)

/-- **Words in quotes survive splitting**, whatever their characters, however each one is written and
whatever blanks stand between them. -/
theorem split_joined (words : List QuotedWord) (gap : Nat → Gap) :
    split (joined words gap) = .ok (words.map QuotedWord.word) := by
  fun_induction joined words gap with
  | case1 gap => rfl
  | case2 word gap => exact split_write word.quoting word.word
  | case3 word next words gap ih => exact split_append (split_write word.quoting word.word) (gap 0) ih

end Runbook.CommandLine
