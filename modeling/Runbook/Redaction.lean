import Runbook.Text.Blank
import Runbook.Text.Words

/-! # Redaction

Text is logged only after what looks like a secret has been replaced by `<redacted>`. Four kinds of
secrets are recognised, one after another on the whole text:

* the credential after `authorization: `,
* the value assigned to a name that ends in `key`, `token`, `secret` or `password`,
* the value of `DATABASE_URL`,
* the user name and password of a web address.

* **`Recognizer`** — finds one kind of secret at the start of a text: what stays before the secret,
  and what follows it.
* **`Recognizer.mask`** — replaces the secrets of one kind, each at the first place where it is
  recognised and none inside another.
* **`redact`** — replaces the secrets of all kinds. -/

namespace Runbook

/-- Finds a secret at the start of a text: the text to keep before it, and the text after it. -/
structure Recognizer where
  /-- What is kept before the secret and what follows it, if there is a secret here. -/
  find? : List Char → Option (List Char × List Char)
  /-- The text after a secret is shorter than the whole. -/
  shrinks : ∀ text kept rest, find? text = some (kept, rest) → rest.length < text.length

namespace Redaction

/-- What is written in place of a secret. -/
def mark : List Char := ['<', 'r', 'e', 'd', 'a', 'c', 't', 'e', 'd', '>']

/-- Whether a character is the given small ASCII letter, or another character, up to case. The Kelvin
sign is a `k` and the long s is an `s`. -/
def sameLetter (letter c : Char) : Bool :=
  c.toLower == letter || (letter == 'k' && c.toNat == 0x212A) || (letter == 's' && c.toNat == 0x17F)

/-- Reads a word up to case: the characters that it is written with, and the text after it. -/
def readWord : (word text : List Char) → Option (List Char × List Char)
  | [], text => some ([], text)
  | _ :: _, [] => none
  | letter :: word, c :: text =>
    if sameLetter letter c then (readWord word text).map fun (kept, rest) => (c :: kept, rest)
    else none

/-- Reads the longest run of characters that pass a test; there must be one at least. The run is
the secret. -/
def readSecret (test : Char → Bool) (kept text : List Char) : Option (List Char × List Char) :=
  match text with
  | [] => none
  | c :: rest => if test c then some (kept, rest.dropWhile test) else none

/-- Reads at most one character that passes a test. -/
def readOptional (test : Char → Bool) : List Char → List Char × List Char
  | [] => ([], [])
  | c :: rest => if test c then ([c], rest) else ([], c :: rest)

/-- Whether a character is a quote. -/
def isQuote (c : Char) : Bool := c == '"' || c == '\''

/-- Whether a character may stand in an authorization credential. -/
def isCredentialChar (c : Char) : Bool :=
  Text.isWordChar c || c == '-' || c == '.' || c == '=' || c == ':' || c == '/' || c == '+'

/-- Whether a character may stand in an assigned value. -/
def isValueChar (c : Char) : Bool := !(Text.isBlank c || isQuote c || c == ',' || c == '}')

/-- Whether a character may stand in a user name of a web address. -/
def isUserChar (c : Char) : Bool := !(Text.isBlank c || c == '/' || c == '@' || c == ':')

/-- Whether a character may stand in a password of a web address. -/
def isPasswordChar (c : Char) : Bool := !(Text.isBlank c || c == '/' || c == '@')

/-- The words that a secret's name ends in. -/
def secretWords : List (List Char) :=
  [['k', 'e', 'y'], ['t', 'o', 'k', 'e', 'n'], ['s', 'e', 'c', 'r', 'e', 't'],
    ['p', 'a', 's', 's', 'w', 'o', 'r', 'd']]

/-- The secret after `authorization: `. -/
def findAuthorization (text : List Char) : Option (List Char × List Char) :=
  (readWord ['a', 'u', 't', 'h', 'o', 'r', 'i', 'z', 'a', 't', 'i', 'o', 'n', ':', ' '] text).bind
    fun (kept, rest) => readSecret isCredentialChar kept rest

/-- The value after a secret's name `kept`: perhaps a quote and blanks, a sign of assignment, and
perhaps blanks and a quote come first. -/
def findValue (kept text : List Char) : Option (List Char × List Char) :=
  let (quote, rest) := readOptional isQuote text
  let gap := rest.takeWhile Text.isBlank
  match rest.dropWhile Text.isBlank with
  | [] => none
  | sign :: rest =>
    if sign == '=' || sign == ':' then
      let gapAfter := rest.takeWhile Text.isBlank
      let (quoteAfter, rest) := readOptional isQuote (rest.dropWhile Text.isBlank)
      readSecret isValueChar (kept ++ quote ++ gap ++ sign :: (gapAfter ++ quoteAfter)) rest
    else none

/-- The value assigned to the end of a secret's name. -/
def findAssignment (text : List Char) : Option (List Char × List Char) :=
  secretWords.findSome? fun word =>
    (readWord word text).bind fun (kept, rest) => findValue kept rest

/-- The value of `DATABASE_URL`. -/
def findDatabase (text : List Char) : Option (List Char × List Char) :=
  (readWord ['d', 'a', 't', 'a', 'b', 'a', 's', 'e', '_', 'u', 'r', 'l', '='] text).bind
    fun (kept, rest) => readSecret (fun c => !Text.isBlank c) kept rest

/-- The text after the scheme of a web address, and that scheme. -/
def readScheme : List Char → Option (List Char × List Char)
  | 'h' :: 't' :: 't' :: 'p' :: 's' :: ':' :: '/' :: '/' :: rest =>
    some (['h', 't', 't', 'p', 's', ':', '/', '/'], rest)
  | 'h' :: 't' :: 't' :: 'p' :: ':' :: '/' :: '/' :: rest =>
    some (['h', 't', 't', 'p', ':', '/', '/'], rest)
  | _ => none

/-- The text after the `@` that ends a user name and perhaps a password. -/
def afterUser? (text : List Char) : Option (List Char) :=
  if (text.takeWhile isUserChar).isEmpty then none
  else
    -- the run stops at the first character that no user name holds, which must be the right one
    match text.dropWhile isUserChar with
    | '@' :: rest => some rest
    | ':' :: rest =>
      match rest.dropWhile isPasswordChar with
      | '@' :: rest => some rest
      | _ => none
    | _ => none

/-- The user name and password of a web address. -/
def findUser (text : List Char) : Option (List Char × List Char) :=
  (readScheme text).bind fun (kept, rest) => (afterUser? rest).map fun rest => (kept, rest)

theorem readWord_length {word text kept rest : List Char} (h : readWord word text = some (kept, rest)) :
    rest.length ≤ text.length := by
  induction word generalizing text kept with
  | nil => simp_all [readWord]
  | cons letter word ih =>
    cases text with
    | nil => simp [readWord] at h
    | cons c text =>
      simp only [readWord] at h
      split at h
      · simp only [Option.map_eq_some_iff, Prod.exists, Prod.mk.injEq] at h
        obtain ⟨k, r, hr, -, rfl⟩ := h
        have := ih hr
        simp only [List.length_cons]
        omega
      · simp at h

theorem dropWhile_length_le (test : Char → Bool) (text : List Char) :
    (text.dropWhile test).length ≤ text.length :=
  (List.dropWhile_sublist test).length_le

theorem readSecret_length {test : Char → Bool} {before text kept rest : List Char}
    (h : readSecret test before text = some (kept, rest)) : rest.length < text.length := by
  cases text with
  | nil => simp [readSecret] at h
  | cons c text =>
    simp only [readSecret] at h
    split at h
    · simp only [Option.some.injEq, Prod.mk.injEq] at h
      obtain ⟨-, rfl⟩ := h
      have := dropWhile_length_le test text
      simp only [List.length_cons]
      omega
    · simp at h

theorem readOptional_length (test : Char → Bool) (text : List Char) :
    (readOptional test text).2.length ≤ text.length := by
  cases text with
  | nil => simp [readOptional]
  | cons c text =>
    simp only [readOptional]
    split <;> simp

theorem findAuthorization_length {text kept rest : List Char}
    (h : findAuthorization text = some (kept, rest)) : rest.length < text.length := by
  simp only [findAuthorization, Option.bind_eq_some_iff, Prod.exists] at h
  obtain ⟨k, r, hw, hs⟩ := h
  have := readWord_length hw
  have := readSecret_length hs
  omega

theorem findValue_length {before text kept rest : List Char}
    (h : findValue before text = some (kept, rest)) : rest.length < text.length := by
  simp only [findValue] at h
  have h₁ := readOptional_length isQuote text
  have h₂ := dropWhile_length_le Text.isBlank (readOptional isQuote text).2
  split at h
  · simp at h
  · rename_i sign after heq
    split at h
    · have h₃ := readSecret_length h
      have h₄ := readOptional_length isQuote (after.dropWhile Text.isBlank)
      have h₅ := dropWhile_length_le Text.isBlank after
      rw [heq] at h₂
      simp only [List.length_cons] at h₂
      omega
    · simp at h

theorem findAssignment_length {text kept rest : List Char}
    (h : findAssignment text = some (kept, rest)) : rest.length < text.length := by
  obtain ⟨word, -, hw⟩ := List.exists_of_findSome?_eq_some h
  simp only [Option.bind_eq_some_iff, Prod.exists] at hw
  obtain ⟨k, r, hr, hv⟩ := hw
  have := readWord_length hr
  have := findValue_length hv
  omega

theorem findDatabase_length {text kept rest : List Char}
    (h : findDatabase text = some (kept, rest)) : rest.length < text.length := by
  simp only [findDatabase, Option.bind_eq_some_iff, Prod.exists] at h
  obtain ⟨k, r, hw, hs⟩ := h
  have := readWord_length hw
  have := readSecret_length hs
  omega

theorem readScheme_length {text kept rest : List Char} (h : readScheme text = some (kept, rest)) :
    rest.length < text.length := by
  unfold readScheme at h
  split at h
  · simp only [Option.some.injEq, Prod.mk.injEq] at h
    obtain ⟨-, rfl⟩ := h
    simp only [List.length_cons]
    omega
  · simp only [Option.some.injEq, Prod.mk.injEq] at h
    obtain ⟨-, rfl⟩ := h
    simp only [List.length_cons]
    omega
  · simp at h

theorem afterUser?_length {text rest : List Char} (h : afterUser? text = some rest) :
    rest.length ≤ text.length := by
  have h₁ := dropWhile_length_le isUserChar text
  simp only [afterUser?] at h
  split at h
  · simp at h
  · split at h
    · rename_i heq
      simp only [Option.some.injEq] at h
      subst h
      rw [heq] at h₁
      simp only [List.length_cons] at h₁
      omega
    · rename_i after heq
      have h₂ := dropWhile_length_le isPasswordChar after
      rw [heq] at h₁
      simp only [List.length_cons] at h₁
      split at h
      · rename_i heq₂
        simp only [Option.some.injEq] at h
        subst h
        rw [heq₂] at h₂
        simp only [List.length_cons] at h₂
        omega
      · simp at h
    · simp at h

theorem findUser_length {text kept rest : List Char} (h : findUser text = some (kept, rest)) :
    rest.length < text.length := by
  simp only [findUser, Option.bind_eq_some_iff, Option.map_eq_some_iff, Prod.exists,
    Prod.mk.injEq] at h
  obtain ⟨k, r, hs, s, hu, -, rfl⟩ := h
  have := readScheme_length hs
  have := afterUser?_length hu
  omega

/-- Recognises the credential after `authorization: `. -/
def authorization : Recognizer := ⟨findAuthorization, fun _ _ _ => findAuthorization_length⟩

/-- Recognises the value assigned to a secret's name. -/
def assignment : Recognizer := ⟨findAssignment, fun _ _ _ => findAssignment_length⟩

/-- Recognises the value of `DATABASE_URL`. -/
def database : Recognizer := ⟨findDatabase, fun _ _ _ => findDatabase_length⟩

/-- Recognises the user name and password of a web address. -/
def webUser : Recognizer := ⟨findUser, fun _ _ _ => findUser_length⟩

end Redaction

/-- A text with the secrets of one kind replaced. -/
def Recognizer.mask (kind : Recognizer) : List Char → List Char
  | [] => []
  | c :: text =>
    match h : kind.find? (c :: text) with
    | some (kept, rest) =>
      have : rest.length ≤ text.length := Nat.le_of_lt_succ (kind.shrinks _ _ _ h)
      kept ++ (Redaction.mark ++ kind.mask rest)
    | none => c :: kind.mask text
termination_by text => text.length
decreasing_by
  · exact Nat.lt_succ_of_le this
  · exact Nat.lt_succ_self _

/-- A text with the secrets of every kind replaced. -/
def redactText (text : List Char) : List Char :=
  Redaction.webUser.mask (Redaction.database.mask
    (Redaction.assignment.mask (Redaction.authorization.mask text)))

/-- A string with the secrets of every kind replaced. -/
def redact (text : String) : String := String.ofList (redactText text.toList)

end Runbook
