import Runbook.Proofs.Redaction.Reading

/-! # Authorization headers

Of an authorization header the first word is masked. That is the credential if the header holds nothing
else, but it is the scheme if there is one: the credential then stands behind the masked word and is
redacted like any other text.

* **`Redaction.redactText_header`** — the first word of a header is masked and what follows it is
  redacted by itself.
* **`redact_eq_self`** — a text without signs of assignment is logged as it is.
* **`redact_header_exactly`** — what is shown of a header with a scheme. -/

namespace Runbook

namespace Redaction

variable {word text rest : List Char}

/-! ## The first word -/

/-- A header up to its first word. -/
def headerStart : List Char := "Authorization: ".toList

theorem readWord_headerStart (text : List Char) :
    readWord authorizationWord (headerStart ++ text) = some (headerStart, text) := rfl

/-- The first word of a header is taken for the credential. -/
theorem mask_authorization_header (hne : word ≠ []) (hword : ∀ c ∈ word, isCredentialChar c = true)
    (hrest : ∀ c ∈ rest.head?, isCredentialChar c = false) :
    authorization.mask (headerStart ++ (word ++ rest))
      = headerStart ++ (mark ++ authorization.mask rest) := by
  obtain ⟨c, more, rfl⟩ := List.exists_cons_of_ne_nil hne
  have hmore : ∀ d ∈ more, isCredentialChar d = true := fun d hd =>
    hword d (List.mem_cons_of_mem c hd)
  have hfind : authorization.find? (headerStart ++ (c :: more ++ rest)) = some (headerStart, rest) := by
    change findAuthorization (headerStart ++ (c :: more ++ rest)) = _
    rw [findAuthorization_eq, readWord_headerStart, Option.bind_some]
    change readSecret isCredentialChar headerStart (c :: (more ++ rest)) = _
    rw [readSecret, hword c List.mem_cons_self, if_pos rfl, dropWhile_append_rest hmore hrest]
  exact Recognizer.mask_of_find?_eq_some hfind

/-- No secret of another kind begins in a header whose first word is masked. -/
theorem overlooks_masked_header (text : List Char) :
    assignment.Overlooks (headerStart ++ mark) text ∧
      database.Overlooks (headerStart ++ mark) text ∧
      webUser.Overlooks (headerStart ++ mark) text := by
  have hmasked : headerStart ++ mark = "Authorization: <redacted".toList ++ ['>'] := by decide
  have hnone : ∀ part ∈ ("Authorization: <redacted".toList).tails, ∀ word ∈ secretWords,
      readWord word part = none := by decide
  have hequals : '=' ∉ "Authorization: <redacted".toList := by decide
  have hslash : '/' ∉ "Authorization: <redacted".toList := by decide
  rw [hmasked]
  refine ⟨?assignment, ?database, ?webUser⟩
  case assignment =>
    exact assignment_looksFor.overlooks (by decide) fun part hpart =>
      hnone part ((List.mem_tails _ _).mpr hpart)
  case database =>
    exact database_looksFor.overlooks_of_notMem (by decide) (by decide) (by decide) hequals
  case webUser => exact webUser_overlooks (by decide) hslash

/-- **The first word of a header is masked**, and what follows it is redacted by itself. -/
theorem redactText_header (hne : word ≠ []) (hword : ∀ c ∈ word, isCredentialChar c = true)
    (hrest : ∀ c ∈ rest.head?, isCredentialChar c = false) :
    redactText (headerStart ++ (word ++ rest)) = headerStart ++ mark ++ redactText rest := by
  rw [redactText, mask_authorization_header hne hword hrest, ← List.append_assoc,
    Recognizer.mask_append_of_overlooks (overlooks_masked_header _).1,
    Recognizer.mask_append_of_overlooks (overlooks_masked_header _).2.1,
    Recognizer.mask_append_of_overlooks (overlooks_masked_header _).2.2, redactText]

/-- A header with a scheme in front of the credential. -/
def header (scheme credential : String) : String :=
  "Authorization: " ++ scheme ++ " " ++ credential

theorem toList_header (scheme credential : String) :
    (header scheme credential).toList =
      headerStart ++ (scheme.toList ++ ' ' :: credential.toList) := by
  have hparts (front word : List Char) :
      front ++ word ++ [' '] ++ credential.toList = front ++ (word ++ ' ' :: credential.toList) := by
    rw [List.append_assoc, List.append_assoc, List.singleton_append]
  unfold header
  rw [String.toList_append, String.toList_append, String.toList_append]
  exact hparts headerStart scheme.toList

/-- A space in front of a text does not matter to what is found in it. -/
theorem redactText_space (text : List Char) : redactText (' ' :: text) = ' ' :: redactText text := by
  have hauthorization (text : List Char) :
      authorization.mask (' ' :: text) = ' ' :: authorization.mask text :=
    Recognizer.mask_of_find?_eq_none rfl
  have hassignment (text : List Char) :
      assignment.mask (' ' :: text) = ' ' :: assignment.mask text :=
    Recognizer.mask_of_find?_eq_none rfl
  have hdatabase (text : List Char) : database.mask (' ' :: text) = ' ' :: database.mask text :=
    Recognizer.mask_of_find?_eq_none rfl
  have hwebUser (text : List Char) : webUser.mask (' ' :: text) = ' ' :: webUser.mask text :=
    Recognizer.mask_of_find?_eq_none rfl
  rw [redactText, hauthorization, hassignment, hdatabase, hwebUser, redactText]

end Redaction

open Redaction

variable {scheme credential : String}

/-- A text without signs of assignment is logged as it is. -/
theorem redact_eq_self {text : String} (hequals : '=' ∉ text.toList) (hcolon : ':' ∉ text.toList) :
    redact text = text := by
  have hauthorization : authorization.Ignores text.toList :=
    authorization_looksFor.ignores_of_notMem (by decide) (by decide) hcolon
  have hdatabase : database.Ignores text.toList :=
    database_looksFor.ignores_of_notMem (by decide) (by decide) hequals
  rw [redact, redactText, Recognizer.mask_of_ignores hauthorization,
    Recognizer.mask_of_ignores (assignment_ignores hequals hcolon),
    Recognizer.mask_of_ignores hdatabase, Recognizer.mask_of_ignores (webUser_ignores hcolon),
    String.ofList_toList]

/-! ## Headers -/

/-- A header with a single word is masked whole. -/
theorem redact_header_word (hne : credential ≠ "")
    (hcredential : ∀ c ∈ credential.toList, isCredentialChar c = true) :
    redact ("Authorization: " ++ credential) = "Authorization: <redacted>" := by
  have hlist : credential.toList ≠ [] := fun h => hne (String.toList_eq_nil_iff.mp h)
  have hrest : ∀ c ∈ ([] : List Char).head?, isCredentialChar c = false := fun _ hc => nomatch hc
  have hempty : redactText [] = [] := by simp only [redactText, Recognizer.mask_nil]
  have hmask := redactText_header hlist hcredential hrest
  rw [List.append_nil, hempty, List.append_nil] at hmask
  rw [redact, String.toList_append]
  exact congrArg String.ofList hmask

/-- The scheme of a header is masked, and its credential is redacted by itself. -/
theorem redact_header (hne : scheme ≠ "") (hscheme : ∀ c ∈ scheme.toList, isCredentialChar c = true)
    (credential : String) :
    redact (header scheme credential) = "Authorization: <redacted> " ++ redact credential := by
  have hlist : scheme.toList ≠ [] := fun h => hne (String.toList_eq_nil_iff.mp h)
  have hspace : ∀ c ∈ (' ' :: credential.toList).head?, isCredentialChar c = false := by
    intro c hc
    cases hc
    decide +kernel
  have hfront : headerStart ++ mark ++ [' '] = "Authorization: <redacted> ".toList := by decide
  rw [redact, toList_header, redactText_header hlist hscheme hspace, redactText_space,
    ← List.singleton_append, ← List.append_assoc, hfront, String.ofList_append, String.ofList_toList, redact]

/-- **What is shown of a header, exactly.** The scheme is masked and the credential behind it is shown as
any other text is: two headers are logged alike just if their credentials are, and a credential
without signs of assignment is shown whole. -/
theorem redact_header_exactly (hne : scheme ≠ "")
    (hscheme : ∀ c ∈ scheme.toList, isCredentialChar c = true) :
    (∀ credential, redact (header scheme credential)
      = "Authorization: <redacted> " ++ redact credential) ∧
    (∀ first second, redact (header scheme first) = redact (header scheme second) ↔
      redact first = redact second) ∧
    ∀ credential, '=' ∉ credential.toList → ':' ∉ credential.toList →
      redact (header scheme credential) = "Authorization: <redacted> " ++ credential := by
  have hshown := redact_header hne hscheme
  refine ⟨hshown, fun first second => ?_, fun credential hequals hcolon => ?_⟩
  · rw [hshown, hshown, String.append_right_inj]
  · rw [hshown, redact_eq_self hequals hcolon]

/-- The token behind a scheme is shown. -/
theorem redact_header_sampleToken :
    redact (header "Bearer" "eyJh.bGci-Oi_J9") = "Authorization: <redacted> eyJh.bGci-Oi_J9" := by
  have hscheme : ∀ c ∈ "Bearer".toList, isCredentialChar c = true :=
    List.all_eq_true.mp (by decide +kernel)
  exact (redact_header_exactly (by decide) hscheme).2.2 _ (by decide) (by decide)

/-- **The log can tell two credentials apart** behind the same scheme. -/
theorem redact_header_shows_credential :
    ¬ ∀ scheme first second : String, scheme ≠ "" → (∀ c ∈ scheme.toList, c.isAlpha = true) →
      first ≠ "" → second ≠ "" → (∀ c ∈ first.toList ++ second.toList,
        (c.isAlphanum || "-._=:/+".toList.contains c) = true) →
      redact (header scheme first) = redact (header scheme second) := by
  intro h
  have hsame := h "Bearer" "abc" "xyz" (by decide) (List.all_eq_true.mp (by decide)) (by decide)
    (by decide) (List.all_eq_true.mp (by decide))
  revert hsame
  decide +kernel

end Runbook
