import Mathlib.Tactic.SplitIfs
import Runbook.Text.Blank

/-! # ASCII letters and digits

* **`Text.isAlpha_iff`**, **`Text.isDigit_iff`**, **`Text.isAlphanum_iff`** — where letters and digits
  stand among the characters.
* **`Text.toNat_toLower`**, **`Text.toNat_toUpper`** — where the other case of a character stands.
* **`Text.toLower_of_not_isAlpha`** — only letters have another lower case.
* **`Text.lowerAscii_lowerAscii`** — a text in lower case has no other lower case.
* **`Text.mem_lowerAscii_iff`**, **`Text.map_toList_eq_of_lowerAscii_eq`** — what two texts of one lower
  case have in common. -/

namespace Runbook.Text

variable {c d : Char}

/-! ## Letters and digits by their numbers -/

theorem isUpper_iff : c.isUpper = true ↔ 65 ≤ c.toNat ∧ c.toNat ≤ 90 := decide_eq_true_iff

theorem isLower_iff : c.isLower = true ↔ 97 ≤ c.toNat ∧ c.toNat ≤ 122 := by
  have hlower : c.isLower = (decide (97 ≤ c.toNat) && decide (c.toNat ≤ 122)) := rfl
  rw [hlower, Bool.and_eq_true, decide_eq_true_iff, decide_eq_true_iff]

theorem isAlpha_iff : c.isAlpha = true ↔
    (65 ≤ c.toNat ∧ c.toNat ≤ 90) ∨ (97 ≤ c.toNat ∧ c.toNat ≤ 122) := by
  have halpha : c.isAlpha = (c.isUpper || c.isLower) := rfl
  rw [halpha, Bool.or_eq_true, isUpper_iff, isLower_iff]

theorem isDigit_iff : c.isDigit = true ↔ 48 ≤ c.toNat ∧ c.toNat ≤ 57 := by
  have hdigit : c.isDigit = (decide (48 ≤ c.toNat) && decide (c.toNat ≤ 57)) := rfl
  rw [hdigit, Bool.and_eq_true, decide_eq_true_iff, decide_eq_true_iff]

theorem isAlphanum_iff : c.isAlphanum = true ↔
    (48 ≤ c.toNat ∧ c.toNat ≤ 57) ∨ (65 ≤ c.toNat ∧ c.toNat ≤ 90) ∨
      (97 ≤ c.toNat ∧ c.toNat ≤ 122) := by
  rw [Char.isAlphanum, Bool.or_eq_true, isAlpha_iff, isDigit_iff, or_comm]

theorem ne_of_isAlphanum (hc : c.isAlphanum = true) (hd : d.isAlphanum = false) : c ≠ d := by
  rintro rfl
  rw [hc] at hd
  cases hd

theorem isBlank_of_isAlphanum (h : c.isAlphanum = true) : isBlank c = false := by
  have hnat := isAlphanum_iff.mp h
  simp only [isBlank, Bool.or_eq_false_iff, Bool.and_eq_false_iff, decide_eq_false_iff_not,
    beq_eq_false_iff_ne]
  omega

/-! ## Cases -/

/-- A capital stands 32 characters in front of its small letter. -/
theorem toNat_toLower (c : Char) :
    c.toLower.toNat = if 65 ≤ c.toNat ∧ c.toNat ≤ 90 then c.toNat + 32 else c.toNat := by
  split
  · rename_i h
    have hcapital : 'A'.val ≤ c.val ∧ c.val ≤ 'Z'.val := h
    refine (congrArg Char.toNat (dif_pos hcapital)).trans ?_
    simp
    omega
  · rename_i h
    exact congrArg Char.toNat (dif_neg h)

/-- A small letter stands 32 characters behind its capital. -/
theorem toNat_toUpper (c : Char) :
    c.toUpper.toNat = if 97 ≤ c.toNat ∧ c.toNat ≤ 122 then c.toNat - 32 else c.toNat := by
  split
  · rename_i h
    have hsmall : 'a'.val ≤ c.val ∧ c.val ≤ 'z'.val := h
    refine (congrArg Char.toNat (dif_pos hsmall)).trans ?_
    simp
    omega
  · rename_i h
    exact congrArg Char.toNat (dif_neg h)

/-- A character that is no capital is its own lower case. -/
theorem toLower_eq_self (h : ¬ (65 ≤ c.toNat ∧ c.toNat ≤ 90)) : c.toLower = c := by
  rw [← Char.toNat_inj, toNat_toLower, if_neg h]

theorem toLower_toLower (c : Char) : c.toLower.toLower = c.toLower := by
  refine toLower_eq_self ?_
  rw [toNat_toLower]
  split_ifs <;> omega

theorem toUpper_toLower (c : Char) : c.toLower.toUpper = c.toUpper := by
  rw [← Char.toNat_inj, toNat_toUpper, toNat_toUpper, toNat_toLower]
  split_ifs <;> omega

theorem toLower_toUpper (c : Char) : c.toUpper.toLower = c.toLower := by
  rw [← Char.toNat_inj, toNat_toLower, toNat_toLower, toNat_toUpper]
  split_ifs <;> omega

theorem isAlpha_toLower (c : Char) : c.toLower.isAlpha = c.isAlpha := by
  rw [Bool.eq_iff_iff, isAlpha_iff, isAlpha_iff, toNat_toLower]
  split_ifs <;> omega

theorem isAlphanum_toLower (c : Char) : c.toLower.isAlphanum = c.isAlphanum := by
  rw [Bool.eq_iff_iff, isAlphanum_iff, isAlphanum_iff, toNat_toLower]
  split_ifs <;> omega

/-- A character whose lower case is no letter is its own lower case. -/
theorem toLower_of_not_isAlpha (h : c.toLower.isAlpha = false) : c.toLower = c := by
  refine toLower_eq_self fun hupper => ?_
  rw [isAlpha_toLower, Bool.eq_false_iff, ne_eq, isAlpha_iff] at h
  exact h (.inl hupper)

/-- Small letters are small letters already. -/
theorem lowerAscii_lowerAscii (text : String) : lowerAscii (lowerAscii text) = lowerAscii text := by
  have hlower : Char.toLower ∘ Char.toLower = Char.toLower := by
    funext c
    exact toLower_toLower c
  rw [lowerAscii, lowerAscii, String.toList_ofList, List.map_map, hlower]

/-- Small letters take the place of letters only. -/
theorem mem_lowerAscii_iff (hc : c.isAlpha = false) {text : String} :
    c ∈ (lowerAscii text).toList ↔ c ∈ text.toList := by
  rw [lowerAscii, String.toList_ofList, List.mem_map]
  constructor
  · rintro ⟨d, hd, rfl⟩
    rwa [toLower_of_not_isAlpha hc]
  · intro hmem
    refine ⟨c, hmem, toLower_of_not_isAlpha ?_⟩
    rwa [isAlpha_toLower]

theorem lowerAscii_eq_empty_iff {text : String} : lowerAscii text = "" ↔ text = "" := by
  rw [lowerAscii, String.ofList_eq_empty_iff, List.map_eq_nil_iff, String.toList_eq_nil_iff]

/-- Texts of one lower case have the same image under whatever does not tell cases apart. -/
theorem map_toList_eq_of_lowerAscii_eq {α : Type*} {f : Char → α} (hf : ∀ c, f c.toLower = f c)
    {text other : String} (h : lowerAscii text = lowerAscii other) :
    text.toList.map f = other.toList.map f := by
  have hlower : ∀ text : String, (lowerAscii text).toList.map f = text.toList.map f := by
    intro text
    rw [lowerAscii, String.toList_ofList, List.map_map]
    exact List.map_congr_left fun c _ => hf c
  rw [← hlower text, h, hlower other]

end Runbook.Text
