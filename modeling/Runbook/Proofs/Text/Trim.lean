import Mathlib.Data.List.DropRight
import Runbook.Text.Blank

/-! # Texts without blanks at their ends

* **`Text.IsTrimmed`** — a text that neither begins nor ends with a blank.
* **`Text.isTrimmed_trim`**, **`Text.infix_trim`** — trimming leaves such a text, and nothing that was
  not there before.
* **`Text.trim_eq_of_blank`** — trimming finds such a text again between blanks.
* **`Text.trim_append_cons`** — what is trimmed of a text that goes on behind some character.
* **`Text.exists_blanks_around_trim`** — trimming takes blanks away and nothing else. -/

namespace Runbook.Text

/-- **A text that neither begins nor ends with a blank.** -/
def IsTrimmed (text : List Char) : Prop :=
  (∀ c ∈ text.head?, isBlank c = false) ∧ ∀ c ∈ text.getLast?, isBlank c = false

-- There is at most one character to look at on each side, so the instances are not left to a search
-- that may come upon one for all characters.
instance : DecidablePred IsTrimmed := fun text =>
  @instDecidableAnd _ _ (Option.decidableForallMem text.head?)
    (Option.decidableForallMem text.getLast?)

theorem trimEnd_eq_rdropWhile (text : List Char) : trimEnd text = text.rdropWhile isBlank := rfl

/-- Trimming takes characters away at the ends only. -/
theorem infix_trim (text : List Char) : trim text <:+: text := by
  rw [trim, trimEnd_eq_rdropWhile, trimStart]
  exact (List.rdropWhile_prefix isBlank _).isInfix.trans (List.dropWhile_suffix isBlank).isInfix

/-- Without its leading blanks a text begins with none. -/
theorem isBlank_head?_trimStart (text : List Char) :
    ∀ c ∈ (trimStart text).head?, isBlank c = false := by
  intro c hc
  have hstart := List.head?_dropWhile_not isBlank text
  rw [← trimStart, Option.mem_def.mp hc] at hstart
  exact hstart

/-- **Trimming leaves no blank at either end.** -/
theorem isTrimmed_trim (text : List Char) : IsTrimmed (trim text) := by
  rw [trim, trimEnd_eq_rdropWhile]
  constructor
  · intro c hc
    obtain ⟨behind, hbehind⟩ := List.rdropWhile_prefix isBlank (trimStart text)
    have hhead : (trimStart text).head? = some c := by
      rw [← hbehind, List.head?_append, hc, Option.some_or]
    exact isBlank_head?_trimStart text c hhead
  · intro c hc
    obtain ⟨hne, rfl⟩ := List.mem_getLast?_eq_getLast hc
    exact Bool.eq_false_iff.mpr (List.rdropWhile_last_not isBlank _ hne)

/-- Blanks in front of a text that begins with none are dropped, and nothing else is. -/
theorem dropWhile_isBlank_append {before text : List Char} (hbefore : ∀ c ∈ before, isBlank c = true)
    (htext : ∀ c ∈ text.head?, isBlank c = false) : (before ++ text).dropWhile isBlank = text := by
  rw [List.dropWhile_append_of_pos hbefore]
  cases text with
  | nil => rfl
  | cons c rest =>
    have hc : isBlank c = false := htext c rfl
    rw [List.dropWhile_cons, hc, if_neg Bool.false_ne_true]

/-- **A trimmed text is found again between blanks.** -/
theorem trim_eq_of_blank {text before after : List Char} (h : IsTrimmed text) (hne : text ≠ [])
    (hbefore : ∀ c ∈ before, isBlank c = true) (hafter : ∀ c ∈ after, isBlank c = true) :
    trim (before ++ (text ++ after)) = text := by
  obtain ⟨hhead, hlast⟩ := h
  have hstart : trimStart (before ++ (text ++ after)) = text ++ after := by
    refine dropWhile_isBlank_append hbefore fun c hc => hhead c ?_
    rwa [List.head?_append_of_ne_nil text hne] at hc
  have hend : (after.reverse ++ text.reverse).dropWhile isBlank = text.reverse := by
    refine dropWhile_isBlank_append (fun c hc => hafter c (List.mem_reverse.mp hc)) fun c hc => ?_
    rw [List.head?_reverse] at hc
    exact hlast c hc
  rw [trim, hstart, trimEnd, List.reverse_append, hend, List.reverse_reverse]

/-- A trimmed text is left as it is. -/
theorem trim_eq_self {text : List Char} (h : IsTrimmed text) : trim text = text := by
  cases text with
  | nil => rfl
  | cons c rest =>
    have hblank : ∀ d ∈ ([] : List Char), isBlank d = true := fun d hd =>
      absurd hd List.not_mem_nil
    have hfound := trim_eq_of_blank h (List.cons_ne_nil c rest) hblank hblank
    rwa [List.nil_append, List.append_nil] at hfound

theorem forall_mem_head?_cons {c : Char} (h : isBlank c = false) (rest : List Char) :
    ∀ d ∈ (c :: rest).head?, isBlank d = false := fun _ hd => Option.some.inj hd ▸ h

/-- Only the first and the last character of a text decide whether it is trimmed. -/
theorem isTrimmed_append {front back : List Char} (hfront : front ≠ []) (hback : back ≠ [])
    (hhead : ∀ c ∈ front.head?, isBlank c = false) (hlast : ∀ c ∈ back.getLast?, isBlank c = false) :
    IsTrimmed (front ++ back) := by
  constructor
  · rwa [List.head?_append_of_ne_nil front hfront]
  · rwa [List.getLast?_append_of_ne_nil front hback]

/-- Behind a character that is no blank only the end of a text is trimmed. -/
theorem trim_append_cons {front : List Char} {c : Char} (hne : front ≠ [])
    (hfront : ∀ d ∈ front.head?, isBlank d = false) (hc : isBlank c = false) (text : List Char) :
    trim (front ++ c :: text) = front ++ c :: trimEnd text := by
  have hstart : trimStart (front ++ c :: text) = front ++ c :: text := by
    have hnil : ∀ d ∈ ([] : List Char), isBlank d = true := fun d hd => absurd hd List.not_mem_nil
    have hhead : ∀ d ∈ (front ++ c :: text).head?, isBlank d = false := by
      rwa [List.head?_append_of_ne_nil front hne]
    exact dropWhile_isBlank_append hnil hhead
  have hkept : (c :: front.reverse).dropWhile isBlank = c :: front.reverse := by
    rw [List.dropWhile_cons, hc, if_neg Bool.false_ne_true]
  have hend : (text.reverse ++ c :: front.reverse).dropWhile isBlank =
      text.reverse.dropWhile isBlank ++ c :: front.reverse := by
    rw [List.dropWhile_append, hkept]
    split
    · rename_i hempty
      rw [List.isEmpty_iff.mp hempty, List.nil_append]
    · rfl
  rw [trim, hstart, trimEnd, List.reverse_append, List.reverse_cons, List.append_assoc,
    List.singleton_append, hend, trimEnd]
  simp

/-- **Trimming takes blanks away and nothing else.** -/
theorem exists_blanks_around_trim (text : List Char) :
    ∃ before after, text = before ++ (trim text ++ after) ∧
      (∀ c ∈ before, isBlank c = true) ∧ ∀ c ∈ after, isBlank c = true := by
  refine ⟨text.takeWhile isBlank, (trimStart text).rtakeWhile isBlank, ?_,
    fun c hc => List.mem_takeWhile_imp hc, fun c hc => List.mem_rtakeWhile_imp hc⟩
  rw [trim, trimEnd_eq_rdropWhile, List.rdropWhile_append_rtakeWhile, trimStart,
    List.takeWhile_append_dropWhile]

/-- Only blanks are trimmed to nothing. -/
theorem trim_eq_nil_iff {text : List Char} : trim text = [] ↔ ∀ c ∈ text, isBlank c = true := by
  constructor
  · intro h
    obtain ⟨before, after, htext, hbefore, hafter⟩ := exists_blanks_around_trim text
    rw [h, List.nil_append] at htext
    rw [htext, List.forall_mem_append]
    exact ⟨hbefore, hafter⟩
  · intro h
    rw [trim, trimStart, List.dropWhile_eq_nil_iff.mpr h]
    rfl

/-- A text that ends in blanks is trimmed up to the last character that is none. -/
theorem trim_append_cons_blanks {c : Char} {blanks : List Char} (hc : isBlank c = false)
    (hblanks : ∀ d ∈ blanks, isBlank d = true) (text : List Char) :
    trim (text ++ c :: blanks) = trimStart text ++ [c] := by
  have htrimmed : IsTrimmed (trimStart text ++ [c]) := by
    constructor
    · cases hstart : trimStart text with
      | nil => exact forall_mem_head?_cons hc []
      | cons d rest =>
        have hd : (trimStart text).head? = some d := by rw [hstart, List.head?_cons]
        exact forall_mem_head?_cons (isBlank_head?_trimStart text d hd) _
    · intro d hd
      rw [List.getLast?_concat] at hd
      exact Option.some.inj hd ▸ hc
  have hsplit : text ++ c :: blanks = text.takeWhile isBlank ++ (trimStart text ++ [c] ++ blanks) := by
    rw [← List.append_cons, ← List.append_assoc, trimStart, List.takeWhile_append_dropWhile]
  rw [hsplit]
  exact trim_eq_of_blank htrimmed (by simp) (fun d hd => List.mem_takeWhile_imp hd) hblanks

end Runbook.Text
