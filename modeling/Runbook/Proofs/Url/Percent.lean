import Mathlib.Data.List.Basic
import Runbook.Proofs.Text.Ascii
import Runbook.Url.Percent

/-! # Percent encoding of parts of an address

What has been encoded is not encoded again, and it is decoded to what it was encoded from, unless that
looked encoded from the beginning.

* **`Percent.Sparing`** — a test of unsafe characters that spares percent signs, letters and digits, as
  those of all parts of an address do.
* **`Percent.safe_of_mem_encode`**, **`Percent.encode_eq_self`** — an encoded part holds safe characters
  only, and safe characters are not encoded.
* **`Percent.isBlank_of_not_isUserUnsafe`**, **`Percent.encode_of_isAlphanum`** — the characters of user
  names and passwords.
* **`Percent.decodeBytes_encode`** — the encoding of a text is decoded like the text itself.
* **`Percent.decodeBytes_eq_octets_iff`** — a text is decoded to its own bytes exactly if it holds no
  escape. -/

namespace Runbook.Percent

variable {isUnsafe : Char → Bool} {text : List Char} {c d : Char}

theorem isAlphanum_hexDigit : ∀ n < 16, (hexDigit n).isAlphanum = true := by decide

/-- What stands for a character in an encoding is percent signs, letters and digits. -/
theorem of_mem_encodeChar (h : d ∈ encodeChar c) : d = '%' ∨ d.isAlphanum = true := by
  obtain ⟨byte, -, hbyte⟩ := List.mem_flatMap.mp h
  have hlt : byte.toNat < 256 := byte.toNat_lt
  simp only [encodeByte, List.mem_cons, List.not_mem_nil, or_false] at hbyte
  obtain rfl | rfl | rfl := hbyte
  · exact .inl rfl
  · exact .inr (isAlphanum_hexDigit _ (by omega))
  · exact .inr (isAlphanum_hexDigit _ (by omega))

/-- What stands in an encoding stood in the text or is a percent sign, a letter or a digit. -/
theorem of_mem_encode (h : c ∈ encode isUnsafe text) :
    (c ∈ text ∧ isUnsafe c = false) ∨ c = '%' ∨ c.isAlphanum = true := by
  obtain ⟨d, hd, hc⟩ := List.mem_flatMap.mp h
  split at hc
  · exact .inr (of_mem_encodeChar hc)
  · rename_i hsafe
    rw [List.mem_singleton.mp hc]
    exact .inl ⟨hd, Bool.eq_false_iff.mpr hsafe⟩

/-- **A test of unsafe characters that spares percent signs, letters and digits.** -/
structure Sparing (isUnsafe : Char → Bool) : Prop where
  percent : isUnsafe '%' = false
  alphanum : ∀ c : Char, c.isAlphanum = true → isUnsafe c = false

/-- **An encoded text holds safe characters only.** -/
theorem safe_of_mem_encode (hsparing : Sparing isUnsafe) (h : c ∈ encode isUnsafe text) :
    isUnsafe c = false := by
  rcases of_mem_encode h with ⟨-, hsafe⟩ | rfl | hc
  · exact hsafe
  · exact hsparing.percent
  · exact hsparing.alphanum c hc

/-- **Safe characters are not encoded.** -/
theorem encode_eq_self (h : ∀ c ∈ text, isUnsafe c = false) : encode isUnsafe text = text := by
  have hsingle : encode isUnsafe text = text.flatMap fun c => [c] := by
    refine List.flatMap_congr fun c hc => ?_
    rw [h c hc, if_neg Bool.false_ne_true]
  rw [hsingle, List.flatMap_singleton']

/-! ## The tests of the parts -/

theorem not_isControl_of_isAlphanum (h : c.isAlphanum = true) : isControl c = false := by
  have hnat := Text.isAlphanum_iff.mp h
  simp only [isControl, Bool.or_eq_false_iff, decide_eq_false_iff_not]
  omega

theorem isUserUnsafe_of_isAlphanum (h : c.isAlphanum = true) : isUserUnsafe c = false := by
  have hne (d : Char) (hd : d.isAlphanum = false) : (c == d) = false :=
    beq_false_of_ne (Text.ne_of_isAlphanum h hd)
  simp [isUserUnsafe, isPathUnsafe, isFragmentUnsafe, not_isControl_of_isAlphanum h, hne]

theorem isPathUnsafe_of_not_isUserUnsafe (h : isUserUnsafe c = false) : isPathUnsafe c = false := by
  simp only [isUserUnsafe, Bool.or_eq_false_iff] at h
  exact h.1.1.1.1.1.1.1.1.1.1

theorem isFragmentUnsafe_of_not_isPathUnsafe (h : isPathUnsafe c = false) :
    isFragmentUnsafe c = false := by
  simp only [isPathUnsafe, Bool.or_eq_false_iff] at h
  exact h.1.1.1.1

theorem sparing_isUserUnsafe : Sparing isUserUnsafe := ⟨by decide, fun _ => isUserUnsafe_of_isAlphanum⟩

theorem sparing_isPathUnsafe : Sparing isPathUnsafe :=
  ⟨by decide, fun _ h => isPathUnsafe_of_not_isUserUnsafe (isUserUnsafe_of_isAlphanum h)⟩

theorem sparing_isFragmentUnsafe : Sparing isFragmentUnsafe :=
  ⟨by decide, fun c h => isFragmentUnsafe_of_not_isPathUnsafe (sparing_isPathUnsafe.alphanum c h)⟩

theorem sparing_isQueryUnsafe : Sparing isQueryUnsafe := by
  refine ⟨by decide, fun c h => ?_⟩
  have hne (d : Char) (hd : d.isAlphanum = false) : (c == d) = false :=
    beq_false_of_ne (Text.ne_of_isAlphanum h hd)
  simp [isQueryUnsafe, not_isControl_of_isAlphanum h, hne]

/-- Characters that a test calls safe and others that it calls unsafe are different. -/
theorem ne_of_safe (hc : isUnsafe c = false) (hd : isUnsafe d = true) : c ≠ d := by
  rintro rfl
  rw [hc] at hd
  cases hd

/-- What is neither a control nor a space stands behind both. -/
theorem lt_toNat_of_not_isControl (h : isControl c = false) (hspace : c ≠ ' ') : 32 < c.toNat := by
  have hnat : c.toNat ≠ 32 := fun hnat => hspace (Char.toNat_inj.mp hnat)
  simp only [isControl, Bool.or_eq_false_iff, decide_eq_false_iff_not] at h
  omega

theorem lt_toNat_of_not_isFragmentUnsafe (h : isFragmentUnsafe c = false) : 32 < c.toNat := by
  have hspace := ne_of_safe h (show isFragmentUnsafe ' ' = true by decide)
  simp only [isFragmentUnsafe, Bool.or_eq_false_iff] at h
  exact lt_toNat_of_not_isControl h.1.1.1.1.1 hspace

theorem lt_toNat_of_not_isQueryUnsafe (h : isQueryUnsafe c = false) : 32 < c.toNat := by
  have hspace := ne_of_safe h (show isQueryUnsafe ' ' = true by decide)
  simp only [isQueryUnsafe, Bool.or_eq_false_iff] at h
  exact lt_toNat_of_not_isControl h.1.1.1.1.1.1 hspace

/-! ## User names and passwords -/

/-- **An encoded user name or password holds safe characters only.** -/
theorem isUserUnsafe_of_mem_encode (h : c ∈ encode isUserUnsafe text) : isUserUnsafe c = false :=
  safe_of_mem_encode sparing_isUserUnsafe h

theorem lt_toNat_of_not_isUserUnsafe (h : isUserUnsafe c = false) : 32 < c.toNat :=
  lt_toNat_of_not_isFragmentUnsafe
    (isFragmentUnsafe_of_not_isPathUnsafe (isPathUnsafe_of_not_isUserUnsafe h))

/-- The bytes of a text. -/
def octets (text : List Char) : List UInt8 := text.flatMap String.utf8EncodeChar

theorem octets_cons (c : Char) (text : List Char) :
    octets (c :: text) = String.utf8EncodeChar c ++ octets text := List.flatMap_cons

/-- Whether a text begins with two digits of base sixteen. -/
def BeginsWithDigits (text : List Char) : Prop :=
  ∃ high low rest, text = high :: low :: rest ∧ (Text.hexValue? high).isSome ∧ (Text.hexValue? low).isSome

theorem decodeBytes_cons_of_ne (h : c ≠ '%') (rest : List Char) :
    decodeBytes (c :: rest) = String.utf8EncodeChar c ++ decodeBytes rest := by
  rw [decodeBytes]
  exact fun _ _ _ heq => absurd heq h

theorem decodeBytes_of_digits {high low : Char} {h l : Nat} (hhigh : Text.hexValue? high = some h)
    (hlow : Text.hexValue? low = some l) (rest : List Char) :
    decodeBytes ('%' :: high :: low :: rest) = UInt8.ofNat (h * 16 + l) :: decodeBytes rest := by
  rw [decodeBytes, hhigh, hlow]

theorem not_beginsWithDigits {high low : Char} {rest : List Char}
    (h : ∀ n l, Text.hexValue? high = some n → Text.hexValue? low = some l → False) :
    ¬ ('%' = '%' ∧ BeginsWithDigits (high :: low :: rest)) := by
  rintro ⟨-, _, _, _, heq, hhigh, hlow⟩
  cases heq
  obtain ⟨n, hn⟩ := Option.isSome_iff_exists.mp hhigh
  obtain ⟨l, hl⟩ := Option.isSome_iff_exists.mp hlow
  exact h n l hn hl

theorem not_percent_digits (h : ∀ high low rest, c = '%' → text = high :: low :: rest → False) :
    ¬ (c = '%' ∧ BeginsWithDigits text) := by
  rintro ⟨hpercent, high, low, rest, heq, -, -⟩
  exact h high low rest hpercent heq

/-- **A character that does not begin an escape is decoded to its bytes.** -/
theorem decodeBytes_cons (h : ¬ (c = '%' ∧ BeginsWithDigits text)) :
    decodeBytes (c :: text) = String.utf8EncodeChar c ++ decodeBytes text := by
  by_cases hpercent : c = '%'
  · subst hpercent
    match text, h with
    | [], _ | [_], _ => rfl
    | high :: low :: rest, h =>
      rw [decodeBytes]
      cases hhigh : Text.hexValue? high with
      | none => rfl
      | some n =>
        cases hlow : Text.hexValue? low with
        | none => rfl
        | some l => exact absurd ⟨rfl, high, low, rest, rfl, hhigh ▸ rfl, hlow ▸ rfl⟩ h
  · exact decodeBytes_cons_of_ne hpercent text

theorem hexValue?_hexDigit : ∀ n < 16, Text.hexValue? (hexDigit n) = some n := by decide

/-- An encoded byte is decoded. -/
theorem decodeBytes_encodeByte (byte : UInt8) (rest : List Char) :
    decodeBytes (encodeByte byte ++ rest) = byte :: decodeBytes rest := by
  have hlt : byte.toNat < 256 := byte.toNat_lt
  have hhigh : Text.hexValue? (hexDigit (byte.toNat / 16)) = some (byte.toNat / 16) :=
    hexValue?_hexDigit _ (by omega)
  have hlow : Text.hexValue? (hexDigit (byte.toNat % 16)) = some (byte.toNat % 16) :=
    hexValue?_hexDigit _ (by omega)
  have hbyte : UInt8.ofNat (byte.toNat / 16 * 16 + byte.toNat % 16) = byte := by
    rw [Nat.div_add_mod']
    exact UInt8.ofNat_toNat
  rw [encodeByte, List.cons_append, List.cons_append, List.cons_append, List.nil_append,
    decodeBytes_of_digits hhigh hlow, hbyte]

/-- An encoded character is decoded to its bytes. -/
theorem decodeBytes_encodeChar (c : Char) (rest : List Char) :
    decodeBytes (encodeChar c ++ rest) = String.utf8EncodeChar c ++ decodeBytes rest := by
  rw [encodeChar]
  induction String.utf8EncodeChar c with
  | nil => rfl
  | cons byte bytes ih =>
    rw [List.flatMap_cons, List.append_assoc, decodeBytes_encodeByte, ih, List.cons_append]

theorem encode_cons (isUnsafe : Char → Bool) (c : Char) (text : List Char) :
    encode isUnsafe (c :: text) =
      (if isUnsafe c then encodeChar c else [c]) ++ encode isUnsafe text := List.flatMap_cons

theorem encode_cons_of_safe (h : isUnsafe c = false) (text : List Char) :
    encode isUnsafe (c :: text) = c :: encode isUnsafe text := by
  rw [encode_cons, h, if_neg Bool.false_ne_true, List.singleton_append]

/-- Digits of base sixteen are letters or digits. -/
theorem isAlphanum_of_hexValue? (h : (Text.hexValue? c).isSome) : c.isAlphanum = true := by
  have hnat : (48 ≤ c.toNat ∧ c.toNat ≤ 57) ∨ (97 ≤ c.toNat ∧ c.toNat ≤ 102) ∨
      (65 ≤ c.toNat ∧ c.toNat ≤ 70) := by
    unfold Text.hexValue? at h
    split_ifs at h with hdigit hsmall hcapital
    · exact .inl hdigit
    · exact .inr (.inl hsmall)
    · exact .inr (.inr hcapital)
    · cases h
  rw [Text.isAlphanum_iff]
  omega

theorem exists_encodeChar (c : Char) : ∃ rest, encodeChar c = '%' :: rest := by
  have hlength : (String.utf8EncodeChar c).length = c.utf8Size := String.length_utf8EncodeChar c
  have hpos := c.utf8Size_pos
  cases hbytes : String.utf8EncodeChar c with
  | nil =>
    rw [hbytes, List.length_nil] at hlength
    omega
  | cons byte bytes =>
    rw [encodeChar, hbytes, List.flatMap_cons]
    exact ⟨_, rfl⟩

/-- **An encoding begins with two digits exactly if the text does.** -/
theorem beginsWithDigits_encode_iff (hsparing : Sparing isUnsafe) :
    BeginsWithDigits (encode isUnsafe text) ↔ BeginsWithDigits text := by
  -- A digit in front of an encoding is a character of the text: escapes begin with percent signs.
  have hfront : ∀ {text rest : List Char} {c : Char}, (Text.hexValue? c).isSome →
      encode isUnsafe text = c :: rest → ∃ more, text = c :: more ∧ rest = encode isUnsafe more := by
    intro text rest c hc h
    cases text with
    | nil => cases h
    | cons d more =>
      rw [encode_cons] at h
      split at h
      · obtain ⟨behind, hbehind⟩ := exists_encodeChar d
        rw [hbehind] at h
        cases h
        cases hc
      · cases h
        exact ⟨more, rfl, rfl⟩
  constructor
  · rintro ⟨high, low, rest, h, hhigh, hlow⟩
    obtain ⟨more, rfl, hmore⟩ := hfront hhigh h
    obtain ⟨others, rfl, -⟩ := hfront hlow hmore.symm
    exact ⟨high, low, others, rfl, hhigh, hlow⟩
  · rintro ⟨high, low, rest, rfl, hhigh, hlow⟩
    have hsafe {c : Char} (hc : (Text.hexValue? c).isSome) : isUnsafe c = false :=
      hsparing.alphanum c (isAlphanum_of_hexValue? hc)
    refine ⟨high, low, encode isUnsafe rest, ?_, hhigh, hlow⟩
    rw [encode_cons_of_safe (hsafe hhigh), encode_cons_of_safe (hsafe hlow)]

theorem decodeBytes_encode_cons (hsparing : Sparing isUnsafe)
    (h : ¬ (c = '%' ∧ BeginsWithDigits text)) :
    decodeBytes (encode isUnsafe (c :: text)) =
      String.utf8EncodeChar c ++ decodeBytes (encode isUnsafe text) := by
  by_cases hunsafe : isUnsafe c = true
  · rw [encode_cons, if_pos hunsafe, decodeBytes_encodeChar]
  · rw [encode_cons_of_safe (Bool.eq_false_iff.mpr hunsafe), decodeBytes_cons]
    rwa [beginsWithDigits_encode_iff hsparing]

/-- **The encoding of a text is decoded like the text itself.** -/
theorem decodeBytes_encode (hsparing : Sparing isUnsafe) (text : List Char) :
    decodeBytes (encode isUnsafe text) = decodeBytes text := by
  have hsafe {c : Char} {n : Nat} (hc : Text.hexValue? c = some n) : isUnsafe c = false :=
    hsparing.alphanum c (isAlphanum_of_hexValue? (hc ▸ rfl))
  fun_induction decodeBytes text with
  | case1 => rfl
  | case2 high low rest h l hlow hhigh ih =>
    rw [encode_cons_of_safe hsparing.percent, encode_cons_of_safe (hsafe hhigh),
      encode_cons_of_safe (hsafe hlow), decodeBytes_of_digits hhigh hlow, ih]
  | case3 high low rest hnone ih =>
    rw [decodeBytes_encode_cons hsparing (not_beginsWithDigits hnone), ih]
  | case4 c rest hne ih =>
    rw [decodeBytes_encode_cons hsparing (not_percent_digits hne), ih]

/-- **A text that looks encoded**: a percent sign with two digits behind it stands in it. -/
def HasEscape (text : List Char) : Prop :=
  ∃ high low, (Text.hexValue? high).isSome ∧ (Text.hexValue? low).isSome ∧ ['%', high, low] <:+: text

theorem hasEscape_cons_iff {rest : List Char} :
    HasEscape (c :: rest) ↔ (c = '%' ∧ BeginsWithDigits rest) ∨ HasEscape rest := by
  constructor
  · rintro ⟨high, low, hhigh, hlow, hinfix⟩
    rcases List.infix_cons_iff.mp hinfix with ⟨after, hprefix⟩ | hrest
    · cases hprefix
      exact .inl ⟨rfl, high, low, after, rfl, hhigh, hlow⟩
    · exact .inr ⟨high, low, hhigh, hlow, hrest⟩
  · rintro (⟨rfl, high, low, after, rfl, hhigh, hlow⟩ | ⟨high, low, hhigh, hlow, hrest⟩)
    · exact ⟨high, low, hhigh, hlow, ['%', high, low].prefix_append after |>.isInfix⟩
    · exact ⟨high, low, hhigh, hlow, List.infix_cons_iff.mpr (.inr hrest)⟩

/-- An escape stands behind a character that does not begin one. -/
theorem hasEscape_cons_of_not {rest : List Char} (h : ¬ (c = '%' ∧ BeginsWithDigits rest)) :
    HasEscape (c :: rest) ↔ HasEscape rest := by
  rw [hasEscape_cons_iff, or_iff_right h]

theorem length_octets_cons (c : Char) (text : List Char) :
    (octets text).length < (octets (c :: text)).length := by
  have hpos := c.utf8Size_pos
  rw [octets_cons, List.length_append, String.length_utf8EncodeChar]
  omega

/-- Decoding does not make a text longer. -/
theorem length_decodeBytes_le (text : List Char) : (decodeBytes text).length ≤ (octets text).length := by
  fun_induction decodeBytes text with
  | case1 => exact Nat.le_refl 0
  | case2 high low rest h l hlow hhigh ih =>
    have hrest := length_octets_cons low rest
    have hlow := length_octets_cons high (low :: rest)
    have hall := length_octets_cons '%' (high :: low :: rest)
    rw [List.length_cons]
    omega
  | case3 high low rest hnone ih =>
    rw [octets_cons, List.length_append, List.length_append]
    omega
  | case4 c rest hne ih =>
    rw [octets_cons, List.length_append, List.length_append]
    omega

/-- **A text is decoded to its own bytes exactly if it holds no escape.** -/
theorem decodeBytes_eq_octets_iff (text : List Char) :
    decodeBytes text = octets text ↔ ¬ HasEscape text := by
  fun_induction decodeBytes text with
  | case1 =>
    refine iff_of_true rfl ?_
    rintro ⟨high, low, -, -, hinfix⟩
    exact absurd (List.infix_nil.mp hinfix) (List.cons_ne_nil _ _)
  | case2 high low rest h l hlow hhigh ih =>
    -- An escape is one byte and takes the place of three characters.
    refine iff_of_false (fun heq => ?_) (not_not.mpr (hasEscape_cons_iff.mpr (.inl ⟨rfl, ?_⟩)))
    · have hlength := congrArg List.length heq
      have hle := length_decodeBytes_le rest
      have hrest := length_octets_cons low rest
      have hlow := length_octets_cons high (low :: rest)
      have hall := length_octets_cons '%' (high :: low :: rest)
      rw [List.length_cons] at hlength
      omega
    · exact ⟨high, low, rest, rfl, hhigh ▸ rfl, hlow ▸ rfl⟩
  | case3 high low rest hnone ih =>
    rw [octets_cons, List.append_cancel_left_eq, ih, hasEscape_cons_of_not (not_beginsWithDigits hnone)]
  | case4 c rest hne ih =>
    rw [octets_cons, List.append_cancel_left_eq, ih, hasEscape_cons_of_not (not_percent_digits hne)]

end Runbook.Percent
