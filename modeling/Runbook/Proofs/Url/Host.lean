import Runbook.Proofs.Text.Octets
import Runbook.Proofs.Url.Numeric

/-! # Hosts are written and read again

A host is read from many texts and written in one way. From that one it is read again, whatever the
ASCII form of names that is handed in, as long as it obeys its laws.

* **`DomainNames.lawful_ascii`** — the form without tables obeys them.
* **`WebHost.Canonical`** — a host as it comes from reading: `canonical_of_parse`.
* **`WebHost.Canonical.parse_render`** — such a host is read from its own text.
* **`WebHost.Canonical.of_mem_render`** — the characters of that text. -/

namespace Runbook

/-! ## Names without tables -/

namespace DomainNames

attribute [local instance] ascii

/-- **The ASCII form without tables obeys the laws.** -/
theorem lawful_ascii : LawfulDomainNames where
  toAscii?_of_isPlain := by
    intro text h
    exact if_pos (List.all_eq_true.mpr fun c hc => decide_eq_true (h.1 c hc))
  toAscii?_of_toAscii? := by
    intro text name h
    dsimp only [toAscii?] at h
    split at h
    · rename_i hascii
      cases h
      have hsmall : (text.map Char.toLower).all (·.toNat < 128) = true := by
        refine List.all_eq_true.mpr fun c hc => decide_eq_true ?_
        obtain ⟨d, hd, rfl⟩ := List.mem_map.mp hc
        have hlt := of_decide_eq_true (List.all_eq_true.mp hascii d hd)
        rw [Text.toNat_toLower]
        split_ifs <;> omega
      have hagain : (text.map Char.toLower).map Char.toLower = text.map Char.toLower := by
        rw [List.map_map]
        exact List.map_congr_left fun c _ => Text.toLower_toLower c
      dsimp only [toAscii?]
      rw [if_pos hsmall, hagain]
    · cases h

end DomainNames

namespace WebHost

variable {c : Char} {text : List Char} {host : WebHost}

/-! ## Characters of names -/

/-- What stands in a host name stands behind the controls and the space. -/
theorem lt_toNat_of_not_isForbidden (h : isForbidden c = false) : 32 < c.toNat ∧ c.toNat < 127 := by
  have hspace : c ≠ ' ' := Percent.ne_of_safe h (show isForbidden ' ' = true by decide)
  have hnat : c.toNat ≠ 32 := fun hnat => hspace (Char.toNat_inj.mp hnat)
  simp only [isForbidden, Percent.isControl, Bool.or_eq_false_iff, decide_eq_false_iff_not] at h
  omega

theorem not_isForbidden_of_isAlphanum (h : c.isAlphanum = true) : isForbidden c = false := by
  have hne (d : Char) (hd : d.isAlphanum = false) : (c == d) = false :=
    beq_false_of_ne (Text.ne_of_isAlphanum h hd)
  simp [isForbidden, Percent.not_isControl_of_isAlphanum h, hne]

theorem not_isForbidden_of_mem_ipv4Text {address : Nat} (h : c ∈ ipv4Text address) :
    isForbidden c = false := by
  rcases of_mem_ipv4Text h with rfl | hdigit
  · decide
  · refine not_isForbidden_of_isAlphanum ?_
    rw [Char.isAlphanum, hdigit, Bool.or_true]

/-! ## Names -/

section Names

variable [DomainNames]

/-- A text without percent signs stands for itself. -/
theorem nameOf?_of_notMem (h : '%' ∉ text) : nameOf? text = DomainNames.toAscii? text := by
  have hescape : ¬ Percent.HasEscape text := by
    rintro ⟨high, low, -, -, hwithin⟩
    exact h (hwithin.subset List.mem_cons_self)
  have hbytes : Percent.decodeBytes text = Utf8.encode (String.ofList text) := by
    rw [(Percent.decodeBytes_eq_octets_iff text).mpr hescape, Utf8.encode_eq, String.toList_ofList]
    rfl
  rw [nameOf?, hbytes, Utf8.text?_encode, Option.bind_some, String.toList_ofList]

/-- A name in ASCII of permitted characters is read as it stands. -/
theorem parse_of_toAscii? (hforbidden : ∀ c ∈ text, isForbidden c = false)
    (hname : DomainNames.toAscii? text = some text) : parse text = ofName text := by
  have hpercent : '%' ∉ text := fun hmem => absurd (hforbidden '%' hmem) (by decide)
  rw [parse.eq_def]
  split
  · have hbracket := hforbidden '[' List.mem_cons_self
    exact absurd hbracket (by decide)
  · rw [nameOf?_of_notMem hpercent, hname]

/-- The text of an address of four bytes is its own ASCII form: it has no letters. -/
theorem toAscii?_ipv4Text [LawfulDomainNames] (address : Nat) :
    DomainNames.toAscii? (ipv4Text address) = some (ipv4Text address) := by
  have hlower : (ipv4Text address).map Char.toLower = ipv4Text address := by
    refine (List.map_congr_left fun c hc => ?_).trans (List.map_id _)
    rcases of_mem_ipv4Text hc with rfl | hdigit
    · rfl
    · have hnat := Text.isDigit_iff.mp hdigit
      exact Text.toLower_eq_self (by omega)
  have hplain : DomainNames.IsPlain (ipv4Text address) := by
    refine ⟨fun c hc => ?_, fun hmarked => ?_⟩
    · have hlt := lt_toNat_of_not_isForbidden (not_isForbidden_of_mem_ipv4Text hc)
      omega
    · rw [hlower] at hmarked
      have hmem : 'x' ∈ '.' :: ipv4Text address := hmarked.subset (by decide)
      obtain heq | hmem := List.mem_cons.mp hmem
      · exact absurd heq (by decide)
      · exact absurd (of_mem_ipv4Text hmem) (by decide)
  rw [LawfulDomainNames.toAscii?_of_isPlain hplain, hlower]

end Names

/-! ## Hosts -/

section Hosts

variable [DomainNames]

/-- **A host as it comes from reading**: a name is its own ASCII form, is not empty, has no forbidden
characters and does not end in a number; a numeric address is no larger than its kind allows. -/
def Canonical : WebHost → Prop
  | .name text =>
    DomainNames.toAscii? text = some text ∧ text ≠ [] ∧ endsInNumber text = false ∧
      ∀ c ∈ text, isForbidden c = false
  | .ipv4 address => address < 4294967296
  | .ipv6 pieces => pieces.length = 8 ∧ ∀ n ∈ pieces, n < 65536

theorem canonical_of_ofName (hname : DomainNames.toAscii? text = some text)
    (h : ofName text = .ok host) : host.Canonical := by
  rw [ofName] at h
  split_ifs at h with hforbidden hempty hnumber
  · split at h
    · rename_i address haddress
      cases h
      exact lt_of_ipv4Of? haddress
    · cases h
  · cases h
    refine ⟨hname, fun hnil => hempty (List.isEmpty_iff.mpr hnil), Bool.eq_false_iff.mpr hnumber,
      fun c hc => ?_⟩
    exact Bool.eq_false_iff.mpr fun hc' => hforbidden (List.any_eq_true.mpr ⟨c, hc, hc'⟩)

/-- **Every host that is read is canonical.** -/
theorem canonical_of_parse [LawfulDomainNames] (h : parse text = .ok host) : host.Canonical := by
  rw [parse.eq_def] at h
  split at h
  · rw [ofBrackets] at h
    split_ifs at h
    split at h
    · rename_i pieces hpieces
      cases h
      exact of_ipv6Of? hpieces
    · cases h
  · split at h
    · rename_i found hfound
      obtain ⟨name, -, hname⟩ := Option.bind_eq_some_iff.mp hfound
      exact canonical_of_ofName (LawfulDomainNames.toAscii?_of_toAscii? hname) h
    · cases h

/-- **A canonical host is read from its text.** -/
theorem Canonical.parse_render [LawfulDomainNames] (h : host.Canonical) :
    parse host.render = .ok host := by
  match host, h with
  | .name text, ⟨hname, hne, hnumber, hplain⟩ =>
    have hforbidden : text.any isForbidden = false :=
      List.any_eq_false.mpr fun c hc => Bool.not_eq_true _ ▸ hplain c hc
    change parse text = _
    rw [parse_of_toAscii? hplain hname, ofName, hforbidden, if_neg Bool.false_ne_true,
      List.isEmpty_eq_false_iff.mpr hne, if_neg Bool.false_ne_true, hnumber, if_neg Bool.false_ne_true]
  | .ipv4 address, haddress =>
    have hforbidden : (ipv4Text address).any isForbidden = false :=
      List.any_eq_false.mpr fun c hc => Bool.not_eq_true _ ▸ not_isForbidden_of_mem_ipv4Text hc
    change parse (ipv4Text address) = _
    rw [parse_of_toAscii? (fun c hc => not_isForbidden_of_mem_ipv4Text hc) (toAscii?_ipv4Text address),
      ofName, hforbidden, if_neg Bool.false_ne_true,
      List.isEmpty_eq_false_iff.mpr (ipv4Text_ne_nil address), if_neg Bool.false_ne_true,
      endsInNumber_ipv4Text, if_pos rfl, ipv4Of?_ipv4Text haddress]
  | .ipv6 pieces, ⟨hlength, hpieces⟩ =>
    change ofBrackets (ipv6Text pieces ++ [']']) = _
    rw [ofBrackets, List.getLast?_concat, if_pos rfl, List.dropLast_concat,
      ipv6Of?_ipv6Text hlength hpieces]

/-- **The characters of a host** are permitted in names, or they are those of numeric addresses. -/
theorem Canonical.of_mem_render (h : host.Canonical) (hc : c ∈ host.render) :
    isForbidden c = false ∨ c = '[' ∨ c = ']' ∨ c = ':' := by
  match host, h with
  | .name text, ⟨_, _, _, hplain⟩ => exact .inl (hplain c hc)
  | .ipv4 address, _ => exact .inl (not_isForbidden_of_mem_ipv4Text hc)
  | .ipv6 pieces, _ =>
    change c ∈ '[' :: (ipv6Text pieces ++ [']']) at hc
    rw [List.mem_cons, List.mem_append, List.mem_singleton] at hc
    obtain hc | hc | hc := hc
    · exact .inr (.inl hc)
    · rcases of_mem_ipv6Text hc with hcolon | halphanum
      · exact .inr (.inr (.inr hcolon))
      · exact .inl (not_isForbidden_of_isAlphanum halphanum)
    · exact .inr (.inr (.inl hc))

theorem Canonical.render_ne_nil (h : host.Canonical) : host.render ≠ [] := by
  match host, h with
  | .name text, ⟨_, hne, _, _⟩ => exact hne
  | .ipv4 address, _ => exact ipv4Text_ne_nil address
  | .ipv6 pieces, _ => exact List.cons_ne_nil _ _

end Hosts

end WebHost

end Runbook
