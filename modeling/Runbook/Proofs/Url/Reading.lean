import Runbook.Proofs.Outcome
import Runbook.Proofs.Url.Parts

/-! # Addresses are written and read again

Reading an address settles everything about it: what is unsafe is encoded, dots in its path are
resolved, and a usual port is left out. An address that is settled is read again from its own text,
whatever the ASCII form of the names of hosts, as long as that obeys its laws.

* **`Url.readWeb_eq_ok_iff`** — how an address is read, part by part.
* **`Url.Canonical`** — an address as it comes from reading: `canonical_of_parse`.
* **`Url.Canonical.withUser`** — it stays so with another user name and password.
* **`Url.Canonical.parse_render`** — it is read again from its text. -/

namespace Runbook.Url

variable {c : Char} {text : List Char} {secure : Bool} {url : Url}

/-! ## Addresses -/

section Addresses

variable [DomainNames]

/-- **The address after a scheme** in terms of its parts. -/
theorem readWeb_eq_ok_iff :
    readWeb secure text = .ok url ↔
      ∃ authority rest user? place hostText portPart host port,
        authority = (text.dropWhile fun c => c == '/' || c == '\\').takeWhile
          (fun c => !endsAuthority true c) ∧
        rest = (text.dropWhile fun c => c == '/' || c == '\\').dropWhile
          (fun c => !endsAuthority true c) ∧
        cutUser authority = (user?, place) ∧ cutHost false place = (hostText, portPart) ∧
        hostText ≠ [] ∧ WebHost.parse hostText = .ok host ∧ readPortPart portPart = .ok port ∧
        url = ⟨secure, (readUser (user?.getD [])).1, (readUser (user?.getD [])).2, host,
          if port = some (usualPort secure) then none else port,
          readPath ((rest.takeWhile (· != '#')).takeWhile (· != '?')),
          readQuery ((rest.takeWhile (· != '#')).dropWhile (· != '?')),
          readFragment (rest.dropWhile (· != '#'))⟩ := by
  constructor
  · intro h
    unfold readWeb at h
    dsimp only [bind, Except.bind, pure, Except.pure] at h
    split at h
    · cases h
    · rename_i hempty
      split at h
      · cases h
      · rename_i host hhost
        split at h
        · cases h
        · rename_i port hport
          cases h
          exact ⟨_, _, _, _, _, _, host, port, rfl, rfl, rfl, rfl,
            fun hnil => hempty (List.isEmpty_iff.mpr hnil), hhost, hport, rfl⟩
  · rintro ⟨authority, rest, user?, place, hostText, portPart, host, port, rfl, rfl, huser, hplace,
      hne, hhost, hport, rfl⟩
    unfold readWeb
    dsimp only [bind, Except.bind, pure, Except.pure]
    rw [huser]
    dsimp only
    rw [hplace]
    dsimp only
    rw [List.isEmpty_eq_false_iff.mpr hne, if_neg Bool.false_ne_true, hhost]
    dsimp only
    rw [hport]

/-- **An address as it comes from reading**: its parts are encoded, its host and its path are settled,
and its port is not the usual one. -/
structure Canonical (url : Url) : Prop where
  username : ∀ c ∈ url.username, Percent.isUserUnsafe c = false
  password : ∀ c ∈ url.password, Percent.isUserUnsafe c = false
  host : url.host.Canonical
  port : ∀ port, url.port = some port → port < 65536 ∧ port ≠ usualPort url.secure
  path_ne_nil : url.path ≠ []
  path : ∀ segment ∈ url.path, Settled segment
  query : ∀ text, url.query = some text → ∀ c ∈ text, Percent.isQueryUnsafe c = false
  fragment : ∀ text, url.fragment = some text → ∀ c ∈ text, Percent.isFragmentUnsafe c = false

theorem canonical_of_readWeb [LawfulDomainNames] (h : readWeb secure text = .ok url) : url.Canonical := by
  obtain ⟨authority, rest, user?, place, hostText, portPart, host, port, -, -, -, -, -, hhost, hport,
    rfl⟩ := readWeb_eq_ok_iff.mp h
  have hpath := settled_readPath ((rest.takeWhile (· != '#')).takeWhile (· != '?'))
  have huser := safe_readUser (user?.getD [])
  refine ⟨huser.1, huser.2, WebHost.canonical_of_parse hhost, ?_, hpath.1, hpath.2, ?_, ?_⟩
  · intro n hn
    dsimp only at hn
    split_ifs at hn with husual
    subst hn
    exact ⟨lt_of_readPortPart hport, fun heq => husual (congrArg some heq)⟩
  · intro part hpart c hc
    dsimp only [readQuery] at hpart
    split at hpart
    · cases hpart
      exact Percent.safe_of_mem_encode Percent.sparing_isQueryUnsafe hc
    · cases hpart
  · intro part hpart c hc
    dsimp only [readFragment] at hpart
    split at hpart
    · cases hpart
      exact Percent.safe_of_mem_encode Percent.sparing_isFragmentUnsafe hc
    · cases hpart

/-- **Every address that is read is canonical.** -/
theorem canonical_of_parse [LawfulDomainNames] (h : parse text = .ok (.web url)) : url.Canonical := by
  have hweb {secure : Bool} {text : List Char}
      (h : (readWeb secure text).map Address.web = .ok (.web url)) : url.Canonical := by
    obtain ⟨found, hread, hfound⟩ := map_eq_ok_iff.mp h
    cases hfound
    exact canonical_of_readWeb hread
  have hother {α : Type} {found : Except UrlError α} {scheme : List Char}
      (h : found.map (fun _ => Address.other scheme) = .ok (.web url)) : url.Canonical := by
    obtain ⟨_, _, hfound⟩ := map_eq_ok_iff.mp h
    cases hfound
  rw [parse] at h
  split at h
  · cases h
  · split_ifs at h
    · exact hweb h
    · exact hweb h
    · exact hother h
    · exact hother h
    · exact hother h

/-- **An address stays canonical with another user name and password.** -/
theorem Canonical.withUser (h : url.Canonical) (username password : List Char) :
    (url.withUser username password).Canonical :=
  ⟨fun _ => Percent.isUserUnsafe_of_mem_encode, fun _ => Percent.isUserUnsafe_of_mem_encode, h.host,
    h.port, h.path_ne_nil, h.path, h.query, h.fragment⟩

end Addresses

/-! ## The text of an address -/

/-- An address up to its path. -/
def authorityText (url : Url) : List Char :=
  userText url.username url.password ++ (url.host.render ++ portText url.port)

/-- An address from its path on. -/
def pathAndMore (url : Url) : List Char :=
  pathText url.path ++ markedText '?' url.query ++ markedText '#' url.fragment

theorem render_eq_authorityText (url : Url) :
    url.render = schemeText url.secure ++ ':' :: '/' :: '/' :: (url.authorityText ++ url.pathAndMore) := by
  simp only [render, authorityText, pathAndMore, List.append_assoc]

theorem eq_of_head?_markedText {mark : Char} {part : Option (List Char)}
    (h : (markedText mark part).head? = some c) : c = mark := by
  cases part <;> cases h
  rfl

theorem of_mem_markedText {mark : Char} {part : Option (List Char)} (h : c ∈ markedText mark part) :
    c = mark ∨ ∃ text, part = some text ∧ c ∈ text := by
  cases part with
  | none => cases h
  | some text => exact (List.mem_cons.mp h).imp id fun hc => ⟨text, rfl, hc⟩

theorem of_mem_userText {username password : List Char} (h : c ∈ userText username password) :
    c ∈ username ∨ c ∈ password ∨ c = ':' ∨ c = '@' := by
  unfold userText at h
  split_ifs at h <;> simp only [List.mem_append, List.mem_cons, List.not_mem_nil, or_false] at h <;>
    tauto

theorem of_mem_portText {port : Option Nat} (h : c ∈ portText port) : c = ':' ∨ c.isAlphanum = true := by
  cases port with
  | none => cases h
  | some port =>
    refine (List.mem_cons.mp h).imp id fun hc => ?_
    rw [Char.isAlphanum, WebHost.isDigit_of_mem_digitsText hc, Bool.or_true]

/-- A character that stands in an authority: it does not end it, and it is no space. -/
def StandsInAuthority (c : Char) : Prop := endsAuthority true c = false ∧ 32 < c.toNat

/-- A safe character stands in an authority if the marks that end it are unsafe. -/
theorem standsInAuthority_of_safe {isUnsafe : Char → Bool}
    (hmarks : ['/', '?', '#', '\\'].all isUnsafe = true) (h : isUnsafe c = false)
    (hlt : 32 < c.toNat) : StandsInAuthority c := by
  have hne (d : Char) (hd : d ∈ ['/', '?', '#', '\\']) : (c == d) = false :=
    beq_false_of_ne (Percent.ne_of_safe h (List.all_eq_true.mp hmarks d hd))
  refine ⟨?_, hlt⟩
  rw [endsAuthority, hne '/' (by decide), hne '?' (by decide), hne '#' (by decide),
    hne '\\' (by decide)]
  rfl

theorem standsInAuthority_of_not_isUserUnsafe (h : Percent.isUserUnsafe c = false) :
    StandsInAuthority c :=
  standsInAuthority_of_safe (by decide) h (Percent.lt_toNat_of_not_isUserUnsafe h)

theorem standsInAuthority_of_not_isForbidden (h : WebHost.isForbidden c = false) :
    StandsInAuthority c :=
  standsInAuthority_of_safe (by decide) h (WebHost.lt_toNat_of_not_isForbidden h).1

/-- The characters around the parts of an authority. -/
theorem standsInAuthority_mark (h : c ∈ [':', '@', '[', ']']) : StandsInAuthority c := by
  simp only [List.mem_cons, List.not_mem_nil, or_false] at h
  rcases h with rfl | rfl | rfl | rfl <;> exact ⟨by decide, by decide⟩

theorem clean_eq_self (h : ∀ c ∈ text, 32 < c.toNat) : clean text = text := by
  have hpadding {text : List Char} (h : ∀ c ∈ text, 32 < c.toNat) : text.dropWhile isPadding = text := by
    cases text with
    | nil => rfl
    | cons c rest =>
      have hc := h c List.mem_cons_self
      exact List.dropWhile_cons_of_neg (by rw [isPadding, decide_eq_true_eq]; omega)
  have hreverse : ∀ c ∈ text.reverse, 32 < c.toNat := fun c hc => h c (List.mem_reverse.mp hc)
  have hignored : ∀ c ∈ text, (!isIgnored c) = true := by
    intro c hc
    have hlt := h c hc
    have hne (d : Char) (hd : d.toNat ≤ 32) : (c == d) = false :=
      beq_false_of_ne fun heq => absurd (heq ▸ hlt) (Nat.not_lt.mpr hd)
    rw [isIgnored, hne '\t' (by decide), hne '\n' (by decide), hne '\r' (by decide)]
    rfl
  rw [clean, hpadding h, hpadding hreverse, List.reverse_reverse, List.filter_eq_self.mpr hignored]

theorem cutScheme_schemeText (secure : Bool) (text : List Char) :
    cutScheme (schemeText secure ++ ':' :: text) = some (schemeText secure, text) := by
  cases secure <;> rfl

section Canonical

variable [DomainNames]

theorem Canonical.standsInAuthority (h : url.Canonical) (hc : c ∈ url.authorityText) :
    StandsInAuthority c := by
  rw [authorityText, List.mem_append, List.mem_append] at hc
  rcases hc with hc | hc | hc
  · rcases of_mem_userText hc with hc | hc | rfl | rfl
    · exact standsInAuthority_of_not_isUserUnsafe (h.username c hc)
    · exact standsInAuthority_of_not_isUserUnsafe (h.password c hc)
    · exact standsInAuthority_mark (by decide)
    · exact standsInAuthority_mark (by decide)
  · rcases h.host.of_mem_render hc with hc | rfl | rfl | rfl
    · exact standsInAuthority_of_not_isForbidden hc
    · exact standsInAuthority_mark (by decide)
    · exact standsInAuthority_mark (by decide)
    · exact standsInAuthority_mark (by decide)
  · rcases of_mem_portText hc with rfl | hc
    · exact standsInAuthority_mark (by decide)
    · exact standsInAuthority_of_not_isUserUnsafe (Percent.isUserUnsafe_of_isAlphanum hc)

theorem Canonical.at_notMem_place (h : url.Canonical) : '@' ∉ url.host.render ++ portText url.port := by
  intro hc
  rcases List.mem_append.mp hc with hc | hc
  · exact absurd (h.host.of_mem_render hc) (by decide)
  · exact absurd (of_mem_portText hc) (by decide)

theorem Canonical.of_mem_pathText (h : url.Canonical) (hc : c ∈ pathText url.path) :
    c = '/' ∨ Percent.isPathUnsafe c = false := by
  obtain ⟨segment, hsegment, hc⟩ := List.mem_flatMap.mp hc
  exact (List.mem_cons.mp hc).imp id fun hc => ((h.path segment hsegment).1 c hc).1

theorem Canonical.head?_pathAndMore (h : url.Canonical) (hc : url.pathAndMore.head? = some c) :
    c = '/' := by
  obtain ⟨first, others, hpath⟩ := List.exists_cons_of_ne_nil h.path_ne_nil
  rw [pathAndMore, hpath] at hc
  cases hc
  rfl

/-- **The path, the query and the fragment are read again** from their text. -/
theorem Canonical.read_pathAndMore (h : url.Canonical) :
    readPath ((url.pathAndMore.takeWhile (· != '#')).takeWhile (· != '?')) = url.path ∧
      readQuery ((url.pathAndMore.takeWhile (· != '#')).dropWhile (· != '?')) = url.query ∧
      readFragment (url.pathAndMore.dropWhile (· != '#')) = url.fragment := by
  have hpath : ∀ c ∈ pathText url.path, c ≠ '#' ∧ c ≠ '?' := by
    intro c hc
    rcases h.of_mem_pathText hc with rfl | hsafe
    · decide
    · exact ⟨Percent.ne_of_safe hsafe (by decide), Percent.ne_of_safe hsafe (by decide)⟩
  have hquery : ∀ c ∈ markedText '?' url.query, c ≠ '#' := by
    intro c hc
    rcases of_mem_markedText hc with rfl | ⟨text, htext, hmem⟩
    · decide
    · exact Percent.ne_of_safe (h.query text htext c hmem) (by decide)
  have hbefore : ∀ c ∈ pathText url.path ++ markedText '?' url.query, (c != '#') = true := fun c hc =>
    bne_iff_ne.mpr ((List.mem_append.mp hc).elim (fun hc => (hpath c hc).1) (hquery c))
  have hmark (mark : Char) (part : Option (List Char)) :
      ∀ c, (markedText mark part).head? = some c → (c != mark) = false := fun c hc => by
    rw [eq_of_head?_markedText hc, bne_self_eq_false]
  have hinner : ∀ c ∈ pathText url.path, (c != '?') = true := fun c hc =>
    bne_iff_ne.mpr (hpath c hc).2
  rw [pathAndMore, takeWhile_append_of_head? hbefore (hmark '#' url.fragment),
    dropWhile_append_of_head? hbefore (hmark '#' url.fragment),
    takeWhile_append_of_head? hinner (hmark '?' url.query),
    dropWhile_append_of_head? hinner (hmark '?' url.query)]
  refine ⟨readPath_pathText h.path_ne_nil h.path, ?_, ?_⟩
  · cases hpart : url.query with
    | none => rfl
    | some text =>
      change some (Percent.encode Percent.isQueryUnsafe text) = some text
      rw [Percent.encode_eq_self (h.query text hpart)]
  · cases hpart : url.fragment with
    | none => rfl
    | some text =>
      change some (Percent.encode Percent.isFragmentUnsafe text) = some text
      rw [Percent.encode_eq_self (h.fragment text hpart)]

/-- The slashes in front of an authority are passed over, and no more: it is not empty, and it does not
begin with a slash. -/
theorem Canonical.dropWhile_slashes (h : url.Canonical) :
    ('/' :: '/' :: (url.authorityText ++ url.pathAndMore)).dropWhile (fun c => c == '/' || c == '\\') =
      url.authorityText ++ url.pathAndMore := by
  have hne : url.authorityText ≠ [] :=
    List.append_ne_nil_of_right_ne_nil _ (List.append_ne_nil_of_left_ne_nil h.host.render_ne_nil _)
  have hslash : ∀ c ∈ ['/', '/'], (c == '/' || c == '\\') = true := List.all_eq_true.mp rfl
  have hfirst : ∀ c, (url.authorityText ++ url.pathAndMore).head? = some c →
      (c == '/' || c == '\\') = false := by
    intro c hc
    rw [List.head?_append_of_ne_nil _ hne] at hc
    have hstands := (h.standsInAuthority (List.mem_of_mem_head? hc)).1
    simp only [endsAuthority, Bool.or_eq_false_iff, Bool.true_and] at hstands
    rw [hstands.1.1.1, hstands.2, Bool.or_false]
  exact dropWhile_append_of_head? hslash hfirst

/-- **What follows the scheme of a canonical address is read as the address.** -/
theorem Canonical.readWeb_eq [LawfulDomainNames] (h : url.Canonical) :
    readWeb url.secure ('/' :: '/' :: (url.authorityText ++ url.pathAndMore)) = .ok url := by
  have hauthority : ∀ c ∈ url.authorityText, (!endsAuthority true c) = true := fun c hc => by
    rw [(h.standsInAuthority hc).1, Bool.not_false]
  have hpath : ∀ c, url.pathAndMore.head? = some c → (!endsAuthority true c) = false := fun c hc => by
    rw [h.head?_pathAndMore hc]
    rfl
  have hport : ∀ c, (portText url.port).head? = some c → c = ':' := by
    intro c hc
    cases hnone : url.port <;> rw [hnone] at hc <;> cases hc
    rfl
  have husual : (if url.port = some (usualPort url.secure) then none else url.port) = url.port :=
    if_neg fun heq => (h.port _ heq).2 rfl
  obtain ⟨user?, huser, hread⟩ := cutUser_userText h.username h.password h.at_notMem_place
  obtain ⟨hsegments, hquery, hfragment⟩ := h.read_pathAndMore
  refine readWeb_eq_ok_iff.mpr ⟨url.authorityText, url.pathAndMore, user?,
    url.host.render ++ portText url.port, url.host.render, portText url.port, url.host, url.port,
    ?_, ?_, huser, cutHost_render h.host hport, h.host.render_ne_nil, h.host.parse_render,
    readPortPart_portText fun port hport => (h.port port hport).1, ?_⟩
  · rw [h.dropWhile_slashes, takeWhile_append_of_head? hauthority hpath]
  · rw [h.dropWhile_slashes, dropWhile_append_of_head? hauthority hpath]
  · rw [hread, husual, hsegments, hquery, hfragment]

/-- There is no space in the text of an address. -/
theorem Canonical.lt_toNat_of_mem_render (h : url.Canonical) (hc : c ∈ url.render) : 32 < c.toNat := by
  have hscheme : (schemeText url.secure).all (32 < ·.toNat) = true := by
    cases url.secure <;> rfl
  rw [render_eq_authorityText, pathAndMore, List.mem_append, List.mem_cons, List.mem_cons,
    List.mem_cons, List.mem_append, List.mem_append, List.mem_append] at hc
  rcases hc with hc | rfl | rfl | rfl | hc | (hc | hc) | hc
  · exact of_decide_eq_true (List.all_eq_true.mp hscheme c hc)
  · decide
  · decide
  · decide
  · exact (h.standsInAuthority hc).2
  · rcases h.of_mem_pathText hc with rfl | hc
    · decide
    · exact Percent.lt_toNat_of_not_isFragmentUnsafe (Percent.isFragmentUnsafe_of_not_isPathUnsafe hc)
  · rcases of_mem_markedText hc with rfl | ⟨text, htext, hc⟩
    · decide
    · exact Percent.lt_toNat_of_not_isQueryUnsafe (h.query text htext c hc)
  · rcases of_mem_markedText hc with rfl | ⟨text, htext, hc⟩
    · decide
    · exact Percent.lt_toNat_of_not_isFragmentUnsafe (h.fragment text htext c hc)

/-- **A canonical address is read again from its text.** -/
theorem Canonical.parse_render [LawfulDomainNames] (h : url.Canonical) :
    parse url.render = .ok (.web url) := by
  have hschemes : schemeText false ≠ schemeText true := by decide
  have hread := h.readWeb_eq
  rw [parse, clean_eq_self fun c => h.lt_toNat_of_mem_render, render_eq_authorityText,
    cutScheme_schemeText]
  dsimp only
  cases hsecure : url.secure with
  | false =>
    rw [hsecure] at hread
    rw [if_neg hschemes, if_pos rfl, hread]
    rfl
  | true =>
    rw [hsecure] at hread
    rw [if_pos rfl, hread]
    rfl

end Canonical

end Runbook.Url
