import Runbook.Proofs.Redaction.Masking
import Runbook.Proofs.Text.Ascii

/-! # What the recognizers read

The readers that recognizers are made of stop at a character that they do not accept, so that what
stands behind it does not matter to them.

* **`Redaction.authorization_faithful`**, … — each recognizer finds a secret where it stands.
* **`Redaction.readWord_append`**, **`readSecret_append`**, … — the readers in front of a character
  that stops them.
* **`Redaction.isPlain`** — a character that has no meaning in an assignment. No value is assigned
  right before one (`findValue_plain`), and a value behind one does not depend on what follows it
  (`findValue_append`).
* **`Recognizer.LooksFor`** — the words of which one stands in front of every secret of a kind, so that
  nothing is found where none of them is read.
* **`Redaction.assignment_overlooks_or_mask`** — a value behind a name is left alone or masked. -/

namespace Runbook

theorem findSome?_congr {α β : Type} {f g : α → Option β} {items : List α}
    (h : ∀ item ∈ items, f item = g item) : items.findSome? f = items.findSome? g := by
  induction items with
  | nil => rfl
  | cons item rest ih =>
    rw [List.findSome?_cons, List.findSome?_cons, h item List.mem_cons_self,
      ih fun other hother => h other (List.mem_cons_of_mem item hother)]

/-- Where every item gives nothing or the one result, so does the search. -/
theorem findSome?_eq_none_or {α β : Type} {f : α → Option β} {items : List α} {result : β}
    (h : ∀ item ∈ items, f item = none ∨ f item = some result) :
    items.findSome? f = none ∨ items.findSome? f = some result := by
  cases hsome : items.findSome? f with
  | none => exact Or.inl rfl
  | some found =>
    obtain ⟨item, hitem, hfound⟩ := List.exists_of_findSome?_eq_some hsome
    obtain hnone | hresult := h item hitem
    · rw [hnone] at hfound
      cases hfound
    · exact Or.inr (hfound.symm.trans hresult)

namespace Redaction

open Text (isBlank ne_of_isAlphanum isBlank_of_isAlphanum toLower_of_not_isAlpha)

variable {test : Char → Bool} {word name text before after kept rest secret : List Char}
  {letter sign c d : Char}

/-! ## What is read is there -/

theorem readWord_eq (h : readWord word text = some (kept, rest)) : kept ++ rest = text := by
  induction word generalizing text kept rest with
  | nil =>
    cases h
    rfl
  | cons letter word ih =>
    cases text with
    | nil => cases h
    | cons c text =>
      rw [readWord] at h
      split at h
      · obtain ⟨⟨name, tail⟩, hr, hpair⟩ := Option.map_eq_some_iff.mp h
        cases hpair
        rw [List.cons_append, ih hr]
      · cases h

/-- The second half of a word that is read is read behind the first. -/
theorem exists_readWord_of_append {more : List Char}
    (h : readWord (word ++ more) text = some (kept, rest)) :
    ∃ front middle back, front ++ middle = text ∧ readWord more middle = some (back, rest) := by
  induction word generalizing text kept with
  | nil => exact ⟨[], text, kept, rfl, h⟩
  | cons letter word ih =>
    cases text with
    | nil => cases h
    | cons c text =>
      rw [List.cons_append, readWord] at h
      split at h
      · obtain ⟨⟨name, tail⟩, hr, hpair⟩ := Option.map_eq_some_iff.mp h
        cases hpair
        obtain ⟨front, middle, back, htext, hmiddle⟩ := ih hr
        exact ⟨c :: front, middle, back, by rw [List.cons_append, htext], hmiddle⟩
      · cases h

/-- Every letter of a word that is read stands in the text. -/
theorem exists_mem_of_readWord (h : readWord word text = some (kept, rest)) (hletter : letter ∈ word) :
    ∃ c ∈ text, sameLetter letter c = true := by
  induction word generalizing text kept rest with
  | nil => exact absurd hletter List.not_mem_nil
  | cons first word ih =>
    cases text with
    | nil => cases h
    | cons c text =>
      rw [readWord] at h
      split at h
      · rename_i hsame
        obtain ⟨⟨k, r⟩, hr, -⟩ := Option.map_eq_some_iff.mp h
        obtain rfl | hletter := List.mem_cons.mp hletter
        · exact ⟨c, List.mem_cons_self, hsame⟩
        · obtain ⟨d, hd, hsame⟩ := ih hr hletter
          exact ⟨d, List.mem_cons_of_mem c hd, hsame⟩
      · cases h

theorem readSecret_eq (h : readSecret test before text = some (kept, rest)) :
    kept = before ∧ ∃ secret, secret ++ rest = text := by
  cases text with
  | nil => cases h
  | cons c text =>
    rw [readSecret] at h
    split at h
    · cases h
      exact ⟨rfl, c :: text.takeWhile test, by
        rw [List.cons_append, List.takeWhile_append_dropWhile]⟩
    · cases h

theorem readOptional_eq (test : Char → Bool) (text : List Char) :
    (readOptional test text).1 ++ (readOptional test text).2 = text := by
  cases text with
  | nil => rfl
  | cons c text =>
    rw [readOptional]
    split <;> rfl

theorem findValue_eq (h : findValue before text = some (kept, rest)) :
    ∃ secret, kept ++ (secret ++ rest) = before ++ text := by
  have hquote := readOptional_eq isQuote text
  have hgap := List.takeWhile_append_dropWhile (p := isBlank) (l := (readOptional isQuote text).2)
  simp only [findValue] at h
  split at h
  · cases h
  · rename_i sign tail htail
    split at h
    · have hgapAfter := List.takeWhile_append_dropWhile (p := isBlank) (l := tail)
      have hquoteAfter := readOptional_eq isQuote (tail.dropWhile isBlank)
      obtain ⟨rfl, secret, hsecret⟩ := readSecret_eq h
      have htext : text = (readOptional isQuote text).1 ++
          ((readOptional isQuote text).2.takeWhile isBlank ++ sign :: (tail.takeWhile isBlank ++
          ((readOptional isQuote (tail.dropWhile isBlank)).1 ++ (secret ++ rest)))) := by
        rw [hsecret, hquoteAfter, hgapAfter, ← htail, hgap, hquote]
      refine ⟨secret, ?_⟩
      rw [congrArg (before ++ ·) htext]
      simp only [List.append_assoc, List.cons_append]
    · cases h

theorem authorization_faithful : authorization.Faithful := by
  intro text kept rest h
  obtain ⟨⟨name, tail⟩, hname, hsecret⟩ := Option.bind_eq_some_iff.mp h
  obtain ⟨rfl, secret, rfl⟩ := readSecret_eq hsecret
  exact ⟨secret, readWord_eq hname⟩

theorem assignment_faithful : assignment.Faithful := by
  intro text kept rest h
  obtain ⟨word, -, hword⟩ := List.exists_of_findSome?_eq_some h
  obtain ⟨⟨name, tail⟩, hname, hvalue⟩ := Option.bind_eq_some_iff.mp hword
  obtain ⟨secret, hsecret⟩ := findValue_eq hvalue
  exact ⟨secret, hsecret.trans (readWord_eq hname)⟩

theorem readScheme_eq (h : readScheme text = some (kept, rest)) : kept ++ rest = text := by
  unfold readScheme at h
  split at h
  · cases h
    rfl
  · cases h
    rfl
  · cases h

/-- A sign is only itself up to case. -/
theorem eq_of_sameLetter (hletter : letter.isAlpha = false) (h : sameLetter letter c = true) :
    c = letter := by
  have hne (d : Char) (hd : d.isAlpha = true) : (letter == d) = false := by
    rw [beq_eq_false_iff_ne]
    rintro rfl
    rw [hletter] at hd
    cases hd
  rw [sameLetter, hne 'k' (by decide), hne 's' (by decide), Bool.false_and, Bool.false_and,
    Bool.or_false, Bool.or_false, beq_iff_eq] at h
  rw [← h, toLower_of_not_isAlpha (by rw [h, hletter])]

/-- A word is not read in a text that lacks one of its signs. -/
theorem readWord_eq_none (hmem : letter ∈ word) (hletter : letter.isAlpha = false)
    (h : letter ∉ text) : readWord word text = none := by
  cases hread : readWord word text with
  | none => rfl
  | some found =>
    obtain ⟨c, hc, hsame⟩ := exists_mem_of_readWord hread hmem
    exact absurd (eq_of_sameLetter hletter hsame ▸ hc) h

/-! ## In front of a character that stops a reader -/

/-- What a reader finds in front of a text that it does not reach. -/
def followedBy (after : List Char) (found : List Char × List Char) : List Char × List Char :=
  (found.1, found.2 ++ after)

theorem takeWhile_append_cons (hc : test c = false) :
    (text ++ c :: after).takeWhile test = text.takeWhile test := by
  rw [List.takeWhile_append, List.takeWhile_cons, hc, if_neg Bool.false_ne_true, List.append_nil]
  split
  · rename_i hlength
    exact ((List.takeWhile_prefix test).eq_of_length hlength).symm
  · rfl

theorem dropWhile_append_cons (hc : test c = false) :
    (text ++ c :: after).dropWhile test = text.dropWhile test ++ c :: after := by
  rw [List.dropWhile_append, List.dropWhile_cons, hc, if_neg Bool.false_ne_true]
  split
  · rename_i hempty
    rw [List.isEmpty_iff.mp hempty, List.nil_append]
  · rfl

/-- A run of characters is dropped up to where it ends. -/
theorem dropWhile_append_rest (htext : ∀ c ∈ text, test c = true)
    (hrest : ∀ c ∈ rest.head?, test c = false) : (text ++ rest).dropWhile test = rest := by
  rw [List.dropWhile_append_of_pos htext]
  cases rest with
  | nil => rfl
  | cons c rest => rw [List.dropWhile_cons, hrest c rfl, if_neg Bool.false_ne_true]

/-- Whether a character is no letter of a word. -/
def isForeign (word : List Char) (c : Char) : Bool := word.all fun letter => !sameLetter letter c

theorem readWord_append (hc : isForeign word c = true) :
    readWord word (text ++ c :: after) = (readWord word text).map (followedBy (c :: after)) := by
  induction word generalizing text with
  | nil => rfl
  | cons letter word ih =>
    rw [isForeign, List.all_cons, Bool.and_eq_true, Bool.not_eq_true'] at hc
    obtain ⟨hletter, hword⟩ := hc
    cases text with
    | nil => simp [readWord, hletter]
    | cons d text =>
      rw [List.cons_append, readWord, readWord, ih hword]
      split
      · rw [Option.map_map, Option.map_map]
        rfl
      · rfl

theorem readSecret_append (hc : test c = false) :
    readSecret test before (text ++ c :: after)
      = (readSecret test before text).map (followedBy (c :: after)) := by
  cases text with
  | nil => simp [readSecret, hc]
  | cons d text =>
    rw [List.cons_append, readSecret, readSecret, dropWhile_append_cons hc]
    split <;> rfl

theorem readOptional_append (hc : test c = false) :
    readOptional test (text ++ c :: after)
      = ((readOptional test text).1, (readOptional test text).2 ++ c :: after) := by
  cases text with
  | nil => simp [readOptional, hc]
  | cons d text =>
    rw [List.cons_append, readOptional, readOptional]
    split <;> rfl

/-! ## Characters without a meaning in an assignment -/

/-- Whether a character is neither a blank nor a quote nor a sign of assignment. -/
def isPlain (c : Char) : Bool := !(isBlank c || isQuote c || c == '=' || c == ':')

theorem isPlain_of_isAlphanum (h : c.isAlphanum = true) : isPlain c = true := by
  have hne (d : Char) (hd : d.isAlphanum = false) : (c == d) = false :=
    beq_false_of_ne (ne_of_isAlphanum h hd)
  rw [isPlain, isBlank_of_isAlphanum h, isQuote, hne '"' (by decide), hne '\'' (by decide),
    hne '=' (by decide), hne ':' (by decide)]
  rfl

/-- A text that begins with a plain character is not assigned. -/
theorem findValue_plain (hc : isPlain c = true) : findValue kept (c :: text) = none := by
  simp only [isPlain, Bool.not_eq_true', Bool.or_eq_false_iff] at hc
  obtain ⟨⟨⟨hblank, hquote⟩, hequals⟩, hcolon⟩ := hc
  simp [findValue, readOptional, hquote, hblank, hequals, hcolon]

/-- Two characters that are neither blanks nor signs are not assigned, even if the first is a
quote. -/
theorem findValue_cons_cons (hc : isPlain c = true ∨ isQuote c = true) (hblank : isBlank d = false)
    (hequals : d ≠ '=') (hcolon : d ≠ ':') : findValue kept (c :: d :: text) = none := by
  obtain hplain | hquote := hc
  · exact findValue_plain hplain
  · simp [findValue, readOptional, hquote, hblank, hequals, hcolon]

/-- Whether a character may stand in a name: it is neither a blank nor a sign of assignment. -/
def isInName (c : Char) : Bool := !(isBlank c || c == '=' || c == ':')

/-- No value is assigned behind a piece of a name, unless the piece is empty or a quote. -/
theorem findValue_inName (kept : List Char) (hrest : ∀ c ∈ rest, isInName c = true) :
    (rest = [] ∨ ∃ q, isQuote q = true ∧ rest = [q]) ∨
      ∀ text, findValue kept (rest ++ text) = none := by
  have hstops : ∀ c ∈ rest, isBlank c = false ∧ c ≠ '=' ∧ c ≠ ':' := by
    intro c hc
    have hname := hrest c hc
    simp only [isInName, Bool.not_eq_true', Bool.or_eq_false_iff, beq_eq_false_iff_ne] at hname
    exact ⟨hname.1.1, hname.1.2, hname.2⟩
  have hplain : ∀ c ∈ rest, isPlain c = true ∨ isQuote c = true := by
    intro c hc
    obtain ⟨hblank, hequals, hcolon⟩ := hstops c hc
    rw [isPlain, hblank, beq_false_of_ne hequals, beq_false_of_ne hcolon]
    cases isQuote c <;> simp
  cases rest with
  | nil => exact Or.inl (Or.inl rfl)
  | cons c rest =>
    have hc := hplain c List.mem_cons_self
    cases rest with
    | nil => exact hc.symm.imp (fun hquote => Or.inr ⟨c, hquote, rfl⟩) fun hplain _ =>
        findValue_plain hplain
    | cons d rest =>
      obtain ⟨hblank, hequals, hcolon⟩ := hstops d (List.mem_cons_of_mem c List.mem_cons_self)
      exact Or.inr fun text => findValue_cons_cons hc hblank hequals hcolon

/-- A value is read behind a sign of assignment, with perhaps a quote in front of the sign. -/
theorem findValue_sign {quote : List Char}
    (hquote : quote = [] ∨ ∃ q, isQuote q = true ∧ quote = [q]) (hsign : sign = '=' ∨ sign = ':') :
    findValue kept (quote ++ sign :: text)
      = readSecret isValueChar (kept ++ quote ++ sign :: (text.takeWhile isBlank
          ++ (readOptional isQuote (text.dropWhile isBlank)).1))
        (readOptional isQuote (text.dropWhile isBlank)).2 := by
  have hstops : isBlank sign = false ∧ isQuote sign = false := by
    obtain rfl | rfl := hsign <;> decide
  have hoptional : readOptional isQuote (quote ++ sign :: text) = (quote, sign :: text) := by
    obtain rfl | ⟨q, hq, rfl⟩ := hquote
    · simp [readOptional, hstops.2]
    · simp [readOptional, hq]
  simp [findValue, hoptional, hstops.1, hsign]

/-- What may not stand in a value. -/
theorem isValueChar_iff : isValueChar c = true ↔
    isBlank c = false ∧ isQuote c = false ∧ c ≠ ',' ∧ c ≠ '}' := by
  simp [isValueChar, and_assoc]

/-- A value that stands right behind the sign is taken up to its end. -/
theorem findValue_cons {quote : List Char}
    (hquote : quote = [] ∨ ∃ q, isQuote q = true ∧ quote = [q]) (hsign : sign = '=' ∨ sign = ':')
    (hc : isValueChar c = true) :
    findValue kept (quote ++ sign :: c :: text)
      = some (kept ++ (quote ++ [sign]), text.dropWhile isValueChar) := by
  obtain ⟨hblank, hquoteless, -, -⟩ := isValueChar_iff.mp hc
  rw [findValue_sign hquote hsign, List.takeWhile_cons, List.dropWhile_cons, hblank,
    if_neg Bool.false_ne_true, if_neg Bool.false_ne_true, readOptional, hquoteless,
    if_neg Bool.false_ne_true, readSecret, hc, if_pos rfl, List.append_nil, List.append_assoc]

/-- **A value is assigned before a character that ends values** as if nothing followed, if a plain
character stands between. -/
theorem findValue_append (hd : isPlain d = true) (hc : isValueChar c = false) :
    findValue kept (text ++ [d] ++ c :: after)
      = (findValue kept (text ++ [d])).map (followedBy (c :: after)) := by
  have hplain := hd
  simp only [isPlain, Bool.not_eq_true', Bool.or_eq_false_iff] at hd
  obtain ⟨⟨⟨hblank, hquote⟩, hequals⟩, hcolon⟩ := hd
  have hassoc : text ++ [d] ++ c :: after = text ++ d :: c :: after := by
    rw [List.append_assoc, List.singleton_append]
  simp only [findValue, hassoc, readOptional_append hquote, takeWhile_append_cons hblank,
    dropWhile_append_cons hblank]
  cases (readOptional isQuote text).2.dropWhile isBlank with
  | nil => simp [hequals, hcolon]
  | cons sign tail =>
    simp only [List.cons_append]
    split
    · have hread (before tail : List Char) :
          readSecret isValueChar before (tail ++ d :: c :: after)
            = (readSecret isValueChar before (tail ++ [d])).map (followedBy (c :: after)) := by
        rw [← readSecret_append hc, List.append_assoc, List.singleton_append]
      simp only [takeWhile_append_cons hblank, dropWhile_append_cons hblank,
        readOptional_append hquote, hread]
    · rfl

/-! ## The words that secrets stand behind -/

/-- The letters and signs of `authorization: `. -/
def authorizationWord : List Char :=
  ['a', 'u', 't', 'h', 'o', 'r', 'i', 'z', 'a', 't', 'i', 'o', 'n', ':', ' ']

theorem findAuthorization_eq (text : List Char) : findAuthorization text =
    (readWord authorizationWord text).bind fun (kept, rest) => readSecret isCredentialChar kept rest :=
  rfl

/-- The letters and signs of `DATABASE_URL=`. -/
def databaseWord : List Char :=
  ['d', 'a', 't', 'a', 'b', 'a', 's', 'e', '_', 'u', 'r', 'l', '=']

theorem findDatabase_eq (text : List Char) : findDatabase text =
    (readWord databaseWord text).bind fun (kept, rest) => readSecret (fun c => !isBlank c) kept rest :=
  rfl

/-- The value assigned to one word at the start of a text. -/
def findAssigned (text word : List Char) : Option (List Char × List Char) :=
  (readWord word text).bind fun (kept, rest) => findValue kept rest

theorem findAssignment_eq (text : List Char) :
    findAssignment text = secretWords.findSome? (findAssigned text) := rfl

/-- No value is assigned without a sign of assignment. -/
theorem sign_mem_of_findValue (h : findValue before text = some (kept, rest)) :
    '=' ∈ text ∨ ':' ∈ text := by
  simp only [findValue] at h
  split at h
  · cases h
  · rename_i sign tail htail
    split at h
    · rename_i hsign
      have hmem : sign ∈ text := by
        have hlater : sign ∈ (readOptional isQuote text).2 :=
          (List.dropWhile_suffix isBlank).subset (htail ▸ List.mem_cons_self)
        exact readOptional_eq isQuote text ▸ List.mem_append_right _ hlater
      rw [Bool.or_eq_true, beq_iff_eq, beq_iff_eq] at hsign
      obtain rfl | rfl := hsign
      · exact Or.inl hmem
      · exact Or.inr hmem
    · cases h

/-- The value behind a word, if there is one, begins behind the sign in front of which a name ends. -/
theorem findAssigned_name (hword : word ∈ secretWords) (hname : ∀ c ∈ name, isInName c = true)
    (hsign : sign = '=' ∨ sign = ':') (hc : isValueChar c = true) :
    findAssigned (name ++ sign :: c :: text) word = none ∨
      findAssigned (name ++ sign :: c :: text) word
        = some (name ++ [sign], text.dropWhile isValueChar) := by
  have hstops : ∀ word ∈ secretWords, isForeign word sign = true := by
    obtain rfl | rfl := hsign <;> decide
  rw [findAssigned, readWord_append (hstops word hword)]
  cases hread : readWord word name with
  | none => exact Or.inl rfl
  | some found =>
    obtain ⟨kept, rest⟩ := found
    have hwhole : kept ++ rest = name := readWord_eq hread
    have hrest : ∀ c ∈ rest, isInName c = true := fun c hc =>
      hname c (hwhole ▸ List.mem_append_right kept hc)
    change findValue kept (rest ++ sign :: c :: text) = none ∨
      findValue kept (rest ++ sign :: c :: text) = _
    rw [← hwhole, List.append_assoc]
    exact (findValue_inName kept hrest).symm.imp (fun hnone => hnone _) fun hquote =>
      findValue_cons hquote hsign hc

/-- **A value behind a name** is left alone, or it is masked up to its end, whichever letters of the name
spell a word. -/
theorem assignment_overlooks_or_mask (hname : ∀ c ∈ name, isInName c = true)
    (hsign : sign = '=' ∨ sign = ':') (hc : isValueChar c = true) :
    assignment.Overlooks name (sign :: c :: text) ∨
      assignment.mask (name ++ sign :: c :: text)
        = name ++ sign :: (mark ++ assignment.mask (text.dropWhile isValueChar)) := by
  change _ ∨ _ = name ++ ([sign] ++ (mark ++ assignment.mask _))
  refine Recognizer.overlooks_or_mask_append fun part _ hpart => ?_
  change findAssignment (part ++ sign :: c :: text) = none ∨
    findAssignment (part ++ sign :: c :: text) = _
  exact findSome?_eq_none_or fun word hword =>
    findAssigned_name hword (fun d hd => hname d (hpart.subset hd)) hsign hc

end Redaction

/-! ## Texts without secrets -/

namespace Recognizer

open Redaction

variable {kind : Recognizer} {words : List (List Char)} {text before after : List Char}
  {sign c : Char}

/-- **The words of a kind of secrets**: no secret is found where none of the words is read. -/
def LooksFor (kind : Recognizer) (words : List (List Char)) : Prop :=
  ∀ text, (∀ word ∈ words, readWord word text = none) → kind.find? text = none

/-- A text in which no word is read may be looked at in front of a character that is in no word. -/
theorem LooksFor.overlooks (hkind : kind.LooksFor words)
    (hstops : ∀ word ∈ words, isForeign word c = true)
    (h : ∀ part, part <:+ before → ∀ word ∈ words, readWord word part = none) :
    kind.Overlooks (before ++ [c]) after := by
  refine overlooks_concat fun part hpart => hkind _ fun word hword => ?_
  rw [readWord_append (hstops word hword), h part hpart word hword, Option.map_none]

/-- No word is read where one of its signs is missing. -/
theorem LooksFor.overlooks_of_notMem (hkind : kind.LooksFor words)
    (hstops : ∀ word ∈ words, isForeign word c = true) (hmem : ∀ word ∈ words, sign ∈ word)
    (hsign : sign.isAlpha = false) (h : sign ∉ before) : kind.Overlooks (before ++ [c]) after :=
  hkind.overlooks hstops fun _ hpart word hword =>
    readWord_eq_none (hmem word hword) hsign fun hsignMem => h (hpart.subset hsignMem)

theorem LooksFor.ignores_of_notMem (hkind : kind.LooksFor words) (hmem : ∀ word ∈ words, sign ∈ word)
    (hsign : sign.isAlpha = false) (h : sign ∉ text) : kind.Ignores text :=
  fun part hpart => hkind part fun word hword =>
    readWord_eq_none (hmem word hword) hsign fun hsignMem => h (hpart.subset hsignMem)

end Recognizer

namespace Redaction

variable {text before after kept rest : List Char} {c : Char}

theorem authorization_looksFor : authorization.LooksFor [authorizationWord] := by
  intro text h
  change findAuthorization text = none
  rw [findAuthorization_eq, h _ (List.mem_singleton_self _), Option.bind_none]

theorem database_looksFor : database.LooksFor [databaseWord] := by
  intro text h
  change findDatabase text = none
  rw [findDatabase_eq, h _ (List.mem_singleton_self _), Option.bind_none]

theorem assignment_looksFor : assignment.LooksFor secretWords := by
  intro text h
  change findAssignment text = none
  rw [findAssignment_eq, List.findSome?_eq_none_iff]
  intro word hword
  rw [findAssigned, h word hword, Option.bind_none]

/-- No value is assigned in a text without signs of assignment. -/
theorem assignment_ignores (hequals : '=' ∉ text) (hcolon : ':' ∉ text) :
    assignment.Ignores text := by
  intro part hpart
  change findAssignment part = none
  rw [findAssignment_eq, List.findSome?_eq_none_iff]
  intro word _
  rw [findAssigned, Option.bind_eq_none_iff]
  rintro ⟨name, tail⟩ hread
  rw [Option.eq_none_iff_forall_ne_some]
  rintro ⟨kept, rest⟩ hvalue
  have hsubset : tail ⊆ text := fun c hc =>
    hpart.subset (readWord_eq hread ▸ List.mem_append_right name hc)
  obtain hmem | hmem := sign_mem_of_findValue hvalue
  · exact hequals (hsubset hmem)
  · exact hcolon (hsubset hmem)

/-- The letters and signs of `https://`. -/
def schemeChars : List Char := ['h', 't', 't', 'p', 's', ':', '/', '/']

theorem readScheme_chars (h : readScheme text = some (kept, rest)) :
    kept ⊆ schemeChars ∧ ':' ∈ kept ∧ '/' ∈ kept := by
  unfold readScheme at h
  split at h
  · cases h
    decide
  · cases h
    decide
  · cases h

/-- No user of an address is found where there is no scheme. -/
theorem find?_webUser_eq_none (h : readScheme text = none) : webUser.find? text = none := by
  change findUser text = none
  rw [findUser, h, Option.bind_none]

/-- No address of the web begins in a text without slashes, in front of a character that no scheme
holds. -/
theorem webUser_overlooks (hc : c ∉ schemeChars) (h : '/' ∉ before) :
    webUser.Overlooks (before ++ [c]) after := by
  refine Recognizer.overlooks_concat fun part hpart => find?_webUser_eq_none ?_
  rw [Option.eq_none_iff_forall_ne_some]
  rintro ⟨kept, rest⟩ hread
  obtain ⟨hsubset, -, hslash⟩ := readScheme_chars hread
  have hbegins : kept <+: part :=
    prefix_of_prefix_append_cons (fun hmem => hc (hsubset hmem)) ⟨rest, readScheme_eq hread⟩
  exact h (hpart.subset (hbegins.subset hslash))

theorem webUser_ignores (h : ':' ∉ text) : webUser.Ignores text := by
  intro part hpart
  refine find?_webUser_eq_none (Option.eq_none_iff_forall_ne_some.mpr ?_)
  rintro ⟨kept, rest⟩ hread
  obtain ⟨-, hcolon, -⟩ := readScheme_chars hread
  exact h (hpart.subset (readScheme_eq hread ▸ List.mem_append_left rest hcolon))

end Redaction

end Runbook
