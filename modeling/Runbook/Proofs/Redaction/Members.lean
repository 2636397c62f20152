import Mathlib.Data.List.TakeWhile
import Runbook.Json.Printer
import Runbook.Proofs.Redaction.Reading

/-! # Secrets among the members of a mapping

A string under a key such as `api_key` is logged as `<redacted>`, but only up to its first character
that ends a value: a blank, a comma, a quote or a closing brace. What stands behind it is shown.

* **`Json.DifferUnder`** — two trees that differ in one string under a key, at any depth;
  `exists_texts` tells their texts apart.
* **`Redaction.NamesSecret`** — a key that ends in one of the words for secrets.
* **`Redaction.exposed`** — what is shown of a secret.
* **`Redaction.mask_assignment_member`** — the value of such a key is masked.
* **`Redaction.redact_compact_eq_of_differUnder`** — two trees that differ in one secret are logged
  alike if the same is shown of it. -/

namespace Runbook

/-- Texts with separators between them, told apart at one of them. -/
theorem intercalate_append_cons {α : Type} (separator text : List α) (before after : List (List α)) :
    separator.intercalate (before ++ text :: after)
      = before.flatMap (· ++ separator) ++ (text ++ after.flatMap (separator ++ ·)) := by
  induction before generalizing text with
  | nil =>
    rw [List.nil_append, List.flatMap_nil, List.nil_append]
    induction after generalizing text with
    | nil => simp [List.intercalate]
    | cons next after ih =>
      have hstep : separator.intercalate (text :: next :: after)
          = text ++ (separator ++ separator.intercalate (next :: after)) := by
        simp [List.intercalate]
      rw [hstep, ih, List.flatMap_cons, List.append_assoc]
  | cons first before ih =>
    obtain ⟨next, rest, hrest⟩ : ∃ next rest, before ++ text :: after = next :: rest :=
      List.exists_cons_of_ne_nil (List.append_ne_nil_of_right_ne_nil before (List.cons_ne_nil _ _))
    have hstep : separator.intercalate (first :: next :: rest)
        = first ++ (separator ++ separator.intercalate (next :: rest)) := by
      simp [List.intercalate]
    rw [List.cons_append, hrest, hstep, ← hrest, ih, List.flatMap_cons]
    simp only [List.append_assoc]

namespace Json

variable {key first second : String} {tree other : Json}

/-! ## Texts of trees that differ in one string -/

/-- A text as it is written inside quotes. -/
def escaped (text : String) : List Char := text.toList.flatMap escapeChar

/-- The text of a member. -/
def memberText (field : String × Json) : List Char :=
  quote field.1.toList ++ ':' :: compactText field.2

theorem compactFields_eq (fields : Fields) :
    compactFields fields = [','].intercalate (fields.map memberText) := by
  induction fields with
  | nil => rfl
  | cons field rest ih =>
    cases rest with
    | nil => simp [compactFields, memberText, List.intercalate]
    | cons next rest =>
      rw [compactFields, ih]
      simp [memberText, List.intercalate]

theorem compactItems_eq (items : List Json) :
    compactItems items = [','].intercalate (items.map compactText) := by
  induction items with
  | nil => rfl
  | cons item rest ih =>
    cases rest with
    | nil => simp [compactItems, List.intercalate]
    | cons next rest =>
      rw [compactItems, ih]
      simp [List.intercalate]

/-- The text of a mapping, told apart at one of its members. -/
theorem compactText_object (before after : Fields) (field : String × Json) :
    compactText (.object (before ++ field :: after))
      = '{' :: ((before.map memberText).flatMap (· ++ [',']) ++ (memberText field
        ++ ((after.map memberText).flatMap ([','] ++ ·) ++ ['}']))) := by
  rw [compactText, compactFields_eq, List.map_append, List.map_cons, intercalate_append_cons]
  simp only [List.append_assoc]

/-- The text of a sequence, told apart at one of its items. -/
theorem compactText_array (before after : List Json) (item : Json) :
    compactText (.array (before ++ item :: after))
      = '[' :: ((before.map compactText).flatMap (· ++ [',']) ++ (compactText item
        ++ ((after.map compactText).flatMap ([','] ++ ·) ++ [']']))) := by
  rw [compactText, compactItems_eq, List.map_append, List.map_cons, intercalate_append_cons]
  simp only [List.append_assoc]

/-- **Two trees that differ in one string only**, which stands under the key, at any depth. -/
inductive DifferUnder (key first second : String) : Json → Json → Prop where
  /-- The string is a member of the mapping. -/
  | here (before after : Fields) : DifferUnder key first second
      (.object (before ++ (key, .string first) :: after))
      (.object (before ++ (key, .string second) :: after))
  /-- The string stands in a member of the mapping. -/
  | member {tree other : Json} (name : String) (before after : Fields)
      (h : DifferUnder key first second tree other) : DifferUnder key first second
      (.object (before ++ (name, tree) :: after)) (.object (before ++ (name, other) :: after))
  /-- The string stands in an item of the sequence. -/
  | item {tree other : Json} (before after : List Json)
      (h : DifferUnder key first second tree other) : DifferUnder key first second
      (.array (before ++ tree :: after)) (.array (before ++ other :: after))

/-- What stands in front of a member ends in an opening brace or a comma. -/
theorem exists_concat_front (before : Fields) : ∃ start opening, (opening = '{' ∨ opening = ',') ∧
    '{' :: (before.map memberText).flatMap (· ++ [',']) = start ++ [opening] := by
  obtain rfl | ⟨rest, last, rfl⟩ := List.eq_nil_or_concat before
  · exact ⟨[], '{', Or.inl rfl, rfl⟩
  · refine ⟨'{' :: ((rest.map memberText).flatMap (· ++ [',']) ++ memberText last), ',',
      Or.inr rfl, ?_⟩
    simp

/-- **The texts of the two trees** are the same but for the string, whose key stands behind an
opening brace or a comma. -/
theorem DifferUnder.exists_texts (h : DifferUnder key first second tree other) :
    ∃ start opening back, (opening = '{' ∨ opening = ',') ∧
      tree.compactText = start ++ opening :: (memberText (key, .string first) ++ back) ∧
      other.compactText = start ++ opening :: (memberText (key, .string second) ++ back) := by
  induction h with
  | here before after =>
    obtain ⟨start, opening, hopening, hfront⟩ := exists_concat_front before
    have htext (secret : String) :
        compactText (.object (before ++ (key, .string secret) :: after))
          = start ++ opening :: (memberText (key, .string secret)
            ++ ((after.map memberText).flatMap ([','] ++ ·) ++ ['}'])) := by
      rw [compactText_object, ← List.cons_append, hfront, List.append_assoc, List.singleton_append]
    exact ⟨start, opening, _, hopening, htext first, htext second⟩
  | member name before after _ ih =>
    obtain ⟨start, opening, back, hopening, htree, hother⟩ := ih
    refine ⟨'{' :: ((before.map memberText).flatMap (· ++ [','])
      ++ (quote name.toList ++ ':' :: start)), opening,
      back ++ ((after.map memberText).flatMap ([','] ++ ·) ++ ['}']), hopening, ?_, ?_⟩
    · rw [compactText_object, memberText, htree]
      simp only [List.append_assoc, List.cons_append]
    · rw [compactText_object, memberText, hother]
      simp only [List.append_assoc, List.cons_append]
  | item before after _ ih =>
    obtain ⟨start, opening, back, hopening, htree, hother⟩ := ih
    refine ⟨'[' :: ((before.map compactText).flatMap (· ++ [',']) ++ start), opening,
      back ++ ((after.map compactText).flatMap ([','] ++ ·) ++ [']']), hopening, ?_, ?_⟩
    · rw [compactText_array, htree]
      simp only [List.append_assoc, List.cons_append]
    · rw [compactText_array, hother]
      simp only [List.append_assoc, List.cons_append]

theorem escapeChar_of_isAlphanum {c : Char} (h : c.isAlphanum = true) : escapeChar c = [c] := by
  have hnat := Text.isAlphanum_iff.mp h
  have hne (d : Char) (hd : d.isAlphanum = false) : c ≠ d := Text.ne_of_isAlphanum h hd
  rw [escapeChar, if_neg (hne '"' (by decide)), if_neg (hne '\\' (by decide)),
    if_neg (hne '\n' (by decide)), if_neg (hne '\r' (by decide)), if_neg (hne '\t' (by decide)),
    if_neg (by omega), if_neg (by omega), if_neg (by omega)]

end Json

namespace Redaction

open Json (DifferUnder escaped memberText)

variable {key first second secret : String} {tree other : Json}
  {name part word before after value kept rest : List Char} {c d : Char}

/-! ## Names of secrets -/

/-- **A name that ends in one of the words for secrets**, up to the case of ASCII letters. -/
def NamesSecret (name : List Char) : Prop := ∃ word ∈ secretWords, word <:+ name.map Char.toLower

instance : DecidablePred NamesSecret := fun name =>
  inferInstanceAs (Decidable (∃ word ∈ secretWords, word <:+ name.map Char.toLower))

/-- A character that is a letter of a word up to case is a letter. -/
theorem isAlphanum_of_mem_secretWords (hword : word ∈ secretWords) (hc : c.toLower ∈ word) :
    c.isAlphanum = true := by
  have hletters : ∀ word ∈ secretWords, word.all Char.isAlpha = true := by decide
  have hlower := List.all_eq_true.mp (hletters word hword) _ hc
  rw [Text.isAlpha_toLower] at hlower
  rw [Char.isAlphanum, hlower, Bool.true_or]

theorem ne_nil_of_mem_secretWords : ∀ word ∈ secretWords, word ≠ [] := by decide

/-- A word is read where it stands, up to the case of ASCII letters. -/
theorem readWord_of_map_toLower (h : name.map Char.toLower = word) :
    readWord word name = some (name, []) := by
  induction name generalizing word with
  | nil =>
    cases h
    rfl
  | cons c name ih =>
    cases h
    have hsame : sameLetter c.toLower c = true := by simp [sameLetter]
    rw [List.map_cons, readWord, hsame, if_pos rfl, ih rfl]
    rfl

/-- A name that ends in a word for secrets ends in a letter, and goes on doing so where it is
shortened, until it is spelled by the word. -/
theorem NamesSecret.of_cons (h : NamesSecret (c :: name))
    (hspelled : ∀ word ∈ secretWords, readWord word (c :: name) ≠ some (c :: name, [])) :
    NamesSecret name := by
  obtain ⟨word, hword, hsuffix⟩ := h
  obtain hwhole | hrest := List.suffix_cons_iff.mp (List.map_cons ▸ hsuffix)
  · have hname : (c :: name).map Char.toLower = word := by rw [hwhole, List.map_cons]
    exact absurd (readWord_of_map_toLower hname) (hspelled word hword)
  · exact ⟨word, hword, hrest⟩

theorem NamesSecret.exists_concat (h : NamesSecret name) :
    ∃ start d, d.isAlphanum = true ∧ name = start ++ [d] := by
  obtain ⟨word, hword, hsuffix⟩ := h
  obtain rfl | ⟨start, d, rfl⟩ := List.eq_nil_or_concat name
  · exact absurd (List.suffix_nil.mp hsuffix) (ne_nil_of_mem_secretWords word hword)
  · refine ⟨start, d, ?_, List.concat_eq_append⟩
    rw [List.concat_eq_append, List.map_append, List.map_singleton] at hsuffix
    obtain rfl | ⟨front, rfl, -⟩ := List.suffix_concat_iff.mp hsuffix
    · exact absurd rfl (ne_nil_of_mem_secretWords _ hword)
    · exact isAlphanum_of_mem_secretWords hword
        (List.mem_append_right front (List.mem_singleton_self _))

/-- Letters are written inside quotes as they are, and so is the end of the name of a secret. -/
theorem NamesSecret.escaped (h : NamesSecret key.toList) : NamesSecret (Json.escaped key) := by
  obtain ⟨word, hword, before, hkey⟩ := h
  obtain ⟨start, letters, hsplit, rfl, hletters⟩ := List.map_eq_append_iff.mp hkey.symm
  have hplain : letters.flatMap Json.escapeChar = letters := by
    have hsingle : letters.flatMap Json.escapeChar = letters.flatMap fun c => [c] := by
      refine List.flatMap_congr fun c hc => Json.escapeChar_of_isAlphanum ?_
      exact isAlphanum_of_mem_secretWords hword (hletters ▸ List.mem_map_of_mem hc)
    rw [hsingle, List.flatMap_singleton']
  refine ⟨word, hword, (start.flatMap Json.escapeChar).map Char.toLower, ?_⟩
  rw [Json.escaped, hsplit, List.flatMap_append, hplain, List.map_append, hletters]

/-! ## The value of a member -/

theorem isForeign_quote : ∀ word ∈ secretWords, isForeign word '"' = true := by decide

/-- A word that does not spell a whole text finds the same value in front of a quote. -/
theorem findAssigned_append (hword : word ∈ secretWords) (hd : isPlain d = true)
    (hspelled : readWord word (part ++ [d]) ≠ some (part ++ [d], [])) :
    findAssigned (part ++ [d] ++ '"' :: after) word
      = (findAssigned (part ++ [d]) word).map (followedBy ('"' :: after)) := by
  rw [findAssigned, findAssigned, readWord_append (isForeign_quote word hword)]
  cases hread : readWord word (part ++ [d]) with
  | none => rfl
  | some found =>
    obtain ⟨kept, rest⟩ := found
    have hwhole := readWord_eq hread
    obtain rfl | ⟨front, rfl, -⟩ := List.suffix_concat_iff.mp ⟨kept, hwhole⟩
    · rw [List.append_nil] at hwhole
      rw [hread, hwhole] at hspelled
      exact absurd rfl hspelled
    · exact findValue_append hd (by decide)

/-- **A text that no word spells** finds the same value in front of a quote. -/
theorem findAssignment_append (hd : isPlain d = true)
    (hspelled : ∀ word ∈ secretWords, readWord word (part ++ [d]) ≠ some (part ++ [d], [])) :
    findAssignment (part ++ [d] ++ '"' :: after)
      = (findAssignment (part ++ [d])).map (followedBy ('"' :: after)) := by
  rw [findAssignment_eq, findAssignment_eq, List.map_findSome?]
  exact findSome?_congr fun word hword => findAssigned_append hword hd (hspelled word hword)

/-- **A text that a word spells** finds the value in quotes behind its own quote and a colon. -/
theorem findAssignment_spelled (hd : isPlain d = true) (hc : isValueChar c = true)
    (hignored : findAssignment (part ++ [d]) = none)
    (hspelled : ∃ word ∈ secretWords, readWord word (part ++ [d]) = some (part ++ [d], [])) :
    findAssignment (part ++ [d] ++ '"' :: ':' :: '"' :: c :: value)
      = some (part ++ [d] ++ ['"', ':', '"'], value.dropWhile isValueChar) := by
  have hfound : ∀ word ∈ secretWords, readWord word (part ++ [d]) = some (part ++ [d], []) →
      findAssigned (part ++ [d] ++ '"' :: ':' :: '"' :: c :: value) word
        = some (part ++ [d] ++ ['"', ':', '"'], value.dropWhile isValueChar) := by
    intro word hword hread
    have hgap : ('"' :: c :: value).takeWhile Text.isBlank = [] := rfl
    have hrest : ('"' :: c :: value).dropWhile Text.isBlank = '"' :: c :: value := rfl
    have hquote : readOptional isQuote ('"' :: c :: value) = (['"'], c :: value) := rfl
    rw [findAssigned, readWord_append (isForeign_quote word hword), hread]
    change findValue (part ++ [d]) (['"'] ++ ':' :: '"' :: c :: value) = _
    rw [findValue_sign (Or.inr ⟨'"', rfl, rfl⟩) (Or.inr rfl), hgap, hrest, hquote, readSecret, hc, if_pos rfl,
      List.append_assoc]
    rfl
  rw [findAssignment_eq] at hignored ⊢
  have heach : ∀ word ∈ secretWords,
      findAssigned (part ++ [d] ++ '"' :: ':' :: '"' :: c :: value) word = none ∨
      findAssigned (part ++ [d] ++ '"' :: ':' :: '"' :: c :: value) word
        = some (part ++ [d] ++ ['"', ':', '"'], value.dropWhile isValueChar) := by
    intro word hword
    by_cases hread : readWord word (part ++ [d]) = some (part ++ [d], [])
    · exact Or.inr (hfound word hword hread)
    · refine Or.inl ?_
      rw [findAssigned_append hword hd hread, List.findSome?_eq_none_iff.mp hignored word hword,
        Option.map_none]
  obtain hnone | hsome := findSome?_eq_none_or heach
  · obtain ⟨word, hword, hread⟩ := hspelled
    have hnothing := List.findSome?_eq_none_iff.mp hnone word hword
    rw [hfound word hword hread] at hnothing
    cases hnothing
  · exact hsome

/-- **The value of a member is masked** if its key ends in a word for secrets. -/
theorem mask_assignment_member (hname : NamesSecret name) (hignored : assignment.Ignores name)
    (hc : isValueChar c = true) :
    assignment.mask (name ++ '"' :: ':' :: '"' :: c :: value)
      = name ++ '"' :: ':' :: '"' :: (mark ++ assignment.mask (value.dropWhile isValueChar)) := by
  induction name with
  | nil =>
    obtain ⟨start, d, -, hnil⟩ := hname.exists_concat
    exact absurd hnil.symm (List.append_ne_nil_of_right_ne_nil start (List.cons_ne_nil d []))
  | cons first name ih =>
    obtain ⟨start, d, hd, hwhole⟩ := hname.exists_concat
    have hplain := isPlain_of_isAlphanum hd
    have hnone : findAssignment (start ++ [d]) = none := hwhole ▸ hignored _ List.suffix_rfl
    by_cases hspelled : ∃ word ∈ secretWords, readWord word (start ++ [d]) = some (start ++ [d], [])
    · have hfind : assignment.find? (first :: name ++ '"' :: ':' :: '"' :: c :: value)
          = some (first :: name ++ ['"', ':', '"'], value.dropWhile isValueChar) := by
        rw [hwhole]
        exact findAssignment_spelled hplain hc hnone hspelled
      rw [Recognizer.mask_of_find?_eq_some hfind]
      simp only [List.append_assoc, List.cons_append, List.nil_append]
    · push Not at hspelled
      have hfind : assignment.find? (first :: (name ++ '"' :: ':' :: '"' :: c :: value)) = none := by
        rw [← List.cons_append, hwhole]
        refine (findAssignment_append hplain hspelled).trans ?_
        rw [hnone, Option.map_none]
      rw [← hwhole] at hspelled
      rw [List.cons_append, Recognizer.mask_of_find?_eq_none hfind, ih (hname.of_cons hspelled)
        (hignored.of_suffix (List.suffix_cons first name)), List.cons_append]

/-! ## What is read apart from a member -/

/-- No value reaches across the quote behind a plain character that stands in no secret's name. -/
theorem assignment_splits (hplain : isPlain c = true)
    (hforeign : ∀ word ∈ secretWords, isForeign word c = true) :
    assignment.Splits (before ++ [c]) ('"' :: after) := by
  intro part hne hpart
  obtain rfl | ⟨front, rfl, -⟩ := List.suffix_concat_iff.mp hpart
  · exact absurd rfl hne
  · refine findAssignment_append hplain fun word hword hspelled => ?_
    rw [readWord_append (hforeign word hword)] at hspelled
    obtain ⟨⟨kept, rest⟩, -, hpair⟩ := Option.map_eq_some_iff.mp hspelled
    have hrest : rest ++ [c] = [] := congrArg Prod.snd hpair
    exact List.append_ne_nil_of_right_ne_nil rest (List.cons_ne_nil c []) hrest

/-- No credential reaches across a character that stands neither in `authorization: ` nor in
credentials. -/
theorem authorization_splits (hforeign : isForeign authorizationWord c = true)
    (hcredential : isCredentialChar c = false) : authorization.Splits before (c :: after) := by
  intro part _ _
  change findAuthorization (part ++ c :: after) = (findAuthorization part).map _
  rw [findAuthorization_eq, findAuthorization_eq, readWord_append hforeign]
  cases readWord authorizationWord part with
  | none => rfl
  | some found => exact readSecret_append hcredential

/-- The credentials on the two sides of such a character are masked apart. -/
theorem mask_authorization_append (hforeign : isForeign authorizationWord c = true)
    (hcredential : isCredentialChar c = false) :
    authorization.mask (before ++ c :: after)
      = authorization.mask before ++ c :: authorization.mask after := by
  have hnone : authorization.find? (c :: after) = none := by
    change findAuthorization ([] ++ c :: after) = none
    rw [findAuthorization_eq, readWord_append hforeign]
    rfl
  rw [Recognizer.mask_append_of_splits authorization_faithful
    (authorization_splits hforeign hcredential), Recognizer.mask_of_find?_eq_none hnone]

/-! ## Secrets -/

/-- **What is shown of a secret**: all that stands behind its first run of characters of values. -/
def exposed (secret : String) : List Char := (escaped secret).dropWhile isValueChar

/-- **A secret that is masked from its start on**, up to what is shown of it. -/
structure Covered (secret : String) : Prop where
  /-- It begins with a character of values. -/
  head : ∃ c rest, escaped secret = c :: rest ∧ isValueChar c = true
  /-- Nothing in it looks like an authorization. -/
  ignored : authorization.Ignores (escaped secret)

/-- Nothing is shown of a secret that is written without blanks, commas, quotes and closing
braces. -/
theorem covered_of_forall (hne : secret ≠ "") (h : ∀ c ∈ escaped secret, isValueChar c = true) :
    Covered secret ∧ exposed secret = [] := by
  have hescaped : ∃ c rest, escaped secret = c :: rest := by
    have hlist : secret.toList ≠ [] := fun hnil => hne (String.toList_eq_nil_iff.mp hnil)
    obtain ⟨c, rest, hrest⟩ := List.exists_cons_of_ne_nil hlist
    obtain ⟨d, more, hmore⟩ : ∃ d more, Json.escapeChar c = d :: more :=
      List.exists_cons_of_ne_nil (by rw [Json.escapeChar]; split_ifs <;> simp)
    exact ⟨d, more ++ rest.flatMap Json.escapeChar, by
      rw [escaped, hrest, List.flatMap_cons, hmore, List.cons_append]⟩
  refine ⟨⟨?head, ?ignored⟩, List.dropWhile_eq_nil_iff.mpr h⟩
  case head =>
    obtain ⟨c, rest, hcons⟩ := hescaped
    exact ⟨c, rest, hcons, h c (hcons ▸ List.mem_cons_self)⟩
  case ignored =>
    -- The space of `authorization: ` would be a blank of the secret.
    exact authorization_looksFor.ignores_of_notMem (by decide) (by decide) fun hmem =>
      absurd (h ' ' hmem) (by decide)

/-! ## Trees that differ in a secret -/

/-- The text of a member that is a string, and what follows it. -/
theorem memberText_string (after : List Char) :
    memberText (key, .string secret) ++ after
      = '"' :: (escaped key ++ '"' :: ':' :: '"' :: (escaped secret ++ '"' :: after)) := by
  simp [memberText, Json.compactText, Json.quote, escaped]

/-- **What the first two masks make of a secret** and what stands around it. -/
theorem mask_member (hopening : c = '{' ∨ c = ',') (hname : NamesSecret key.toList)
    (hauthorization : authorization.Ignores (escaped key))
    (hassignment : assignment.Ignores (escaped key))
    (hsecret : Covered secret) :
    assignment.mask (authorization.mask (before ++ c :: (memberText (key, .string secret) ++ after)))
      = assignment.mask (authorization.mask before ++ [c]) ++ '"' :: (escaped key ++ '"' :: ':' :: '"'
        :: (mark ++ assignment.mask (exposed secret ++ '"' :: authorization.mask after))) := by
  have hforeign : isForeign authorizationWord c = true := by obtain rfl | rfl := hopening <;> decide
  have hcredential : isCredentialChar c = false := by obtain rfl | rfl := hopening <;> decide +kernel
  have hplain : isPlain c = true := by obtain rfl | rfl := hopening <;> decide
  have hwords : ∀ word ∈ secretWords, isForeign word c = true := by
    obtain rfl | rfl := hopening <;> decide
  have hquote {before after : List Char} : authorization.mask (before ++ '"' :: after)
      = authorization.mask before ++ '"' :: authorization.mask after :=
    mask_authorization_append (by decide) (by decide +kernel)
  obtain ⟨d, rest, hsplit, hd⟩ := hsecret.head
  have hfirst (text : List Char) : authorization.mask ('"' :: text) = '"' :: authorization.mask text :=
    Recognizer.mask_of_find?_eq_none rfl
  have hcolon (text : List Char) : authorization.mask (':' :: text) = ':' :: authorization.mask text :=
    Recognizer.mask_of_find?_eq_none rfl
  have hsecond (text : List Char) : assignment.mask ('"' :: text) = '"' :: assignment.mask text :=
    Recognizer.mask_of_find?_eq_none rfl
  have hshown : (rest ++ '"' :: authorization.mask after).dropWhile isValueChar
      = exposed secret ++ '"' :: authorization.mask after := by
    rw [dropWhile_append_cons (by decide), exposed, hsplit, List.dropWhile_cons_of_pos hd]
  calc assignment.mask (authorization.mask (before ++ c :: (memberText (key, .string secret) ++ after)))
      = assignment.mask ((authorization.mask before ++ [c]) ++ '"' :: (escaped key ++ '"' :: ':' :: '"'
          :: (escaped secret ++ '"' :: authorization.mask after))) := by
        rw [mask_authorization_append hforeign hcredential, memberText_string, hfirst, hquote, hcolon,
          hfirst, hquote, Recognizer.mask_of_ignores hauthorization,
          Recognizer.mask_of_ignores hsecret.ignored, List.append_assoc, List.singleton_append]
    _ = assignment.mask (authorization.mask before ++ [c]) ++ '"' :: assignment.mask (escaped key ++ '"'
          :: ':' :: '"' :: (d :: (rest ++ '"' :: authorization.mask after))) := by
        rw [Recognizer.mask_append_of_splits assignment_faithful (assignment_splits hplain hwords),
          hsecond, hsplit, List.cons_append]
    _ = assignment.mask (authorization.mask before ++ [c]) ++ '"' :: (escaped key ++ '"' :: ':' :: '"'
          :: (mark ++ assignment.mask (exposed secret ++ '"' :: authorization.mask after))) := by
        rw [mask_assignment_member hname.escaped hassignment hd, hshown]

/-- **Two trees that differ in one secret are logged alike** if the same is shown of it in both. The
key of the secret must not look like an authorization or an assignment itself. -/
theorem redact_compact_eq_of_differUnder (hname : NamesSecret key.toList)
    (hauthorization : authorization.Ignores (escaped key))
    (hassignment : assignment.Ignores (escaped key))
    (hfirst : Covered first) (hsecond : Covered second) (hshown : exposed first = exposed second)
    (h : DifferUnder key first second tree other) : redact tree.compact = redact other.compact := by
  obtain ⟨start, opening, back, hopening, htree, hother⟩ := h.exists_texts
  have hmask : assignment.mask (authorization.mask tree.compactText)
      = assignment.mask (authorization.mask other.compactText) := by
    rw [htree, hother, mask_member hopening hname hauthorization hassignment hfirst,
      mask_member hopening hname hauthorization hassignment hsecond, hshown]
  simp only [redact, Json.compact, String.toList_ofList, redactText, hmask]

/-- The first words of two passphrases are masked, and what follows them is the same. -/
theorem redact_samplePassphrases :
    redact (Json.object [("store", .object [("api_key", .string "correct horse")])]).compact
      = redact (Json.object [("store", .object [("api_key", .string "battery horse")])]).compact := by
  have hname : NamesSecret "api_key".toList := by decide +kernel
  have hfirst : Covered "correct horse" := ⟨⟨'c', _, rfl, by decide +kernel⟩, by decide +kernel⟩
  have hsecond : Covered "battery horse" := ⟨⟨'b', _, rfl, by decide +kernel⟩, by decide +kernel⟩
  exact redact_compact_eq_of_differUnder hname (by decide +kernel) (by decide +kernel) hfirst hsecond
    (by decide +kernel) (.member "store" [] [] (.here [] []))

/-- **The log can tell a secret of one word from one of two words**: it shows the second word. -/
theorem redact_shows_second_word :
    ¬ ∀ (key first second : String) (tree other : Json), NamesSecret key.toList → first ≠ "" →
      second ≠ "" → DifferUnder key first second tree other →
      redact tree.compact = redact other.compact := by
  intro h
  have hsame := h "token" "x" "correct horse" (.object [("token", .string "x")])
    (.object [("token", .string "correct horse")]) (by decide) (by decide) (by decide) (.here [] [])
  revert hsame
  decide +kernel

end Redaction

end Runbook
