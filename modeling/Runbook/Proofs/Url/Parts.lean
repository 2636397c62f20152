import Runbook.Proofs.Url.Host
import Runbook.Url.Basic

/-! # The parts of an address are read again

* **`Url.Settled`** — a segment of a path as it comes from reading: `settled_readPath`.
* **`Url.readPath_pathText`**, **`Url.readPortPart_portText`** — a path and a port are read from their
  texts.
* **`Url.cutUser_userText`**, **`Url.cutHost_render`** — a user name with its password and a host are
  found in front of what follows. -/

namespace Runbook.Url

variable {c : Char} {text rest : List Char}

/-! ## Texts up to a mark -/

section Marks

variable {test : Char → Bool}

theorem takeWhile_append_of_head? (htext : ∀ c ∈ text, test c = true)
    (hrest : ∀ c, rest.head? = some c → test c = false) : (text ++ rest).takeWhile test = text := by
  rw [List.takeWhile_append_of_pos htext]
  cases rest with
  | nil => rw [List.takeWhile_nil, List.append_nil]
  | cons c rest =>
    rw [List.takeWhile_cons_of_neg (Bool.eq_false_iff.mp (hrest c rfl)), List.append_nil]

theorem dropWhile_append_of_head? (htext : ∀ c ∈ text, test c = true)
    (hrest : ∀ c, rest.head? = some c → test c = false) : (text ++ rest).dropWhile test = rest := by
  rw [List.dropWhile_append_of_pos htext]
  cases rest with
  | nil => rfl
  | cons c rest => rw [List.dropWhile_cons_of_neg (Bool.eq_false_iff.mp (hrest c rfl))]

end Marks

/-! ## Paths -/

section Paths

variable {segment : List Char} {segments done : List (List Char)}

/-- **A segment as it comes from reading**: it is encoded, without slashes, and no dots. -/
def Settled (segment : List Char) : Prop :=
  (∀ c ∈ segment, Percent.isPathUnsafe c = false ∧ c ≠ '/' ∧ c ≠ '\\') ∧
    isSingleDot segment = false ∧ isDoubleDot segment = false

theorem settled_nil : Settled [] := ⟨fun _ h => absurd h List.not_mem_nil, rfl, rfl⟩

theorem splitPath_ne_nil (text : List Char) : splitPath text ≠ [] := by
  cases text with
  | nil => exact List.cons_ne_nil _ _
  | cons c rest =>
    rw [splitPath]
    split_ifs
    · exact List.cons_ne_nil _ _
    · split <;> exact List.cons_ne_nil _ _

/-- There is no slash in a segment. -/
theorem ne_slash_of_mem_splitPath (h : segment ∈ splitPath text) (hc : c ∈ segment) :
    c ≠ '/' ∧ c ≠ '\\' := by
  induction text generalizing segment with
  | nil =>
    rw [List.mem_singleton.mp h] at hc
    cases hc
  | cons d rest ih =>
    rw [splitPath] at h
    split_ifs at h with hslash
    · rcases List.mem_cons.mp h with rfl | h
      · cases hc
      · exact ih h hc
    · cases hsplit : splitPath rest with
      | nil => exact absurd hsplit (splitPath_ne_nil rest)
      | cons first others =>
        rw [hsplit] at h ih
        rcases List.mem_cons.mp h with rfl | h
        · rcases List.mem_cons.mp hc with rfl | hc
          · exact not_or.mp hslash
          · exact ih List.mem_cons_self hc
        · exact ih (List.mem_cons_of_mem first h) hc

theorem splitPath_append (h : ∀ c ∈ segment, c ≠ '/' ∧ c ≠ '\\') (rest : List Char) :
    splitPath (segment ++ '/' :: rest) = segment :: splitPath rest := by
  induction segment with
  | nil => rw [List.nil_append, splitPath, if_pos (.inl rfl)]
  | cons c segment ih =>
    rw [List.forall_mem_cons] at h
    rw [List.cons_append, splitPath, if_neg (not_or.mpr h.1), ih h.2]

theorem splitPath_of_ne (h : ∀ c ∈ segment, c ≠ '/' ∧ c ≠ '\\') : splitPath segment = [segment] := by
  induction segment with
  | nil => rfl
  | cons c segment ih =>
    rw [List.forall_mem_cons] at h
    rw [splitPath, if_neg (not_or.mpr h.1), ih h.2]

/-- Segments are found between the slashes. -/
theorem splitPath_pathText (h : ∀ segment ∈ segments, ∀ c ∈ segment, c ≠ '/' ∧ c ≠ '\\')
    (hsegment : ∀ c ∈ segment, c ≠ '/' ∧ c ≠ '\\') :
    splitPath (segment ++ pathText segments) = segment :: segments := by
  induction segments generalizing segment with
  | nil => rw [pathText, List.flatMap_nil, List.append_nil, splitPath_of_ne hsegment]
  | cons second others ih =>
    rw [List.forall_mem_cons] at h
    have htext : pathText (second :: others) = '/' :: (second ++ pathText others) := rfl
    rw [htext, splitPath_append hsegment, ih h.2 h.1]

theorem mem_of_mem_above (h : segment ∈ above done) : segment ∈ done := by
  cases done with
  | nil => exact h
  | cons last others =>
    rw [above] at h
    split_ifs at h
    · exact h
    · exact List.mem_cons_of_mem last h

/-- **Resolving dots settles segments.** -/
theorem settled_of_mem_resolveDots (hdone : ∀ segment ∈ done, Settled segment)
    (hsegments : ∀ segment ∈ segments, ∀ c ∈ segment,
      Percent.isPathUnsafe c = false ∧ c ≠ '/' ∧ c ≠ '\\') :
    ∀ segment ∈ resolveDots done segments, Settled segment := by
  have habove {done : List (List Char)} (hdone : ∀ segment ∈ done, Settled segment) :
      ∀ segment ∈ above done, Settled segment := fun segment h => hdone segment (mem_of_mem_above h)
  have hreverse {done : List (List Char)} {last : List Char} (hlast : Settled last)
      (hdone : ∀ segment ∈ done, Settled segment) :
      ∀ segment ∈ (last :: done).reverse, Settled segment := fun segment h =>
    List.forall_mem_cons.mpr ⟨hlast, hdone⟩ segment (List.mem_reverse.mp h)
  -- What is done stays settled: a segment is added only where it is no dots.
  fun_induction resolveDots done segments with
  | case1 done => exact fun segment h => hdone segment (List.mem_reverse.mp h)
  | case2 done last hdouble => exact hreverse settled_nil (habove hdone)
  | case3 done last hdouble hsingle => exact hreverse settled_nil hdone
  | case4 done last hdouble hsingle =>
    have hlast := hsegments last List.mem_cons_self
    exact hreverse ⟨hlast, Bool.eq_false_iff.mpr hsingle, Bool.eq_false_iff.mpr hdouble⟩ hdone
  | case5 done segment rest hrest hdouble ih =>
    exact ih (habove hdone) (List.forall_mem_cons.mp hsegments).2
  | case6 done segment rest hrest hdouble hsingle ih =>
    exact ih hdone (List.forall_mem_cons.mp hsegments).2
  | case7 done segment rest hrest hdouble hsingle ih =>
    have hsegment := hsegments segment List.mem_cons_self
    exact ih (List.forall_mem_cons.mpr
      ⟨⟨hsegment, Bool.eq_false_iff.mpr hsingle, Bool.eq_false_iff.mpr hdouble⟩, hdone⟩)
      (List.forall_mem_cons.mp hsegments).2

theorem resolveDots_ne_nil (h : segments ≠ []) : resolveDots done segments ≠ [] := by
  have hreverse (last : List Char) (done : List (List Char)) : (last :: done).reverse ≠ [] :=
    List.reverse_ne_nil_iff.mpr (List.cons_ne_nil last done)
  fun_induction resolveDots done segments with
  | case1 done => exact absurd rfl h
  | case2 done last hdouble => exact hreverse _ _
  | case3 done last hdouble hsingle => exact hreverse _ _
  | case4 done last hdouble hsingle => exact hreverse _ _
  | case5 done segment rest hrest hdouble ih => exact ih hrest
  | case6 done segment rest hrest hdouble hsingle ih => exact ih hrest
  | case7 done segment rest hrest hdouble hsingle ih => exact ih hrest

/-- Settled segments have no dots to resolve. -/
theorem resolveDots_of_settled (h : ∀ segment ∈ segments, Settled segment) :
    resolveDots done segments = done.reverse ++ segments := by
  fun_induction resolveDots done segments with
  | case1 done => exact (List.append_nil _).symm
  | case2 done last hdouble =>
    have hlast := (h last List.mem_cons_self).2.2
    exact absurd hdouble (Bool.eq_false_iff.mp hlast)
  | case3 done last hdouble hsingle =>
    have hlast := (h last List.mem_cons_self).2.1
    exact absurd hsingle (Bool.eq_false_iff.mp hlast)
  | case4 done last hdouble hsingle => exact List.reverse_cons
  | case5 done segment rest hrest hdouble ih =>
    have hsegment := (h segment List.mem_cons_self).2.2
    exact absurd hdouble (Bool.eq_false_iff.mp hsegment)
  | case6 done segment rest hrest hdouble hsingle ih =>
    have hsegment := (h segment List.mem_cons_self).2.1
    exact absurd hsingle (Bool.eq_false_iff.mp hsegment)
  | case7 done segment rest hrest hdouble hsingle ih =>
    rw [ih (List.forall_mem_cons.mp h).2, List.reverse_cons, List.append_assoc, List.singleton_append]

/-- **The path of an address is settled, and it is not empty.** -/
theorem settled_readPath (text : List Char) :
    readPath text ≠ [] ∧ ∀ segment ∈ readPath text, Settled segment := by
  have hread (text : List Char) :
      resolveDots [] ((splitPath text).map (Percent.encode Percent.isPathUnsafe)) ≠ [] ∧
        ∀ segment ∈ resolveDots [] ((splitPath text).map (Percent.encode Percent.isPathUnsafe)),
          Settled segment := by
    refine ⟨resolveDots_ne_nil fun hnil => splitPath_ne_nil text (List.map_eq_nil_iff.mp hnil),
      settled_of_mem_resolveDots (fun _ h => absurd h List.not_mem_nil) fun segment h c hc => ?_⟩
    obtain ⟨part, hpart, rfl⟩ := List.mem_map.mp h
    refine ⟨Percent.safe_of_mem_encode Percent.sparing_isPathUnsafe hc, ?_⟩
    rcases Percent.of_mem_encode hc with ⟨hmem, -⟩ | rfl | halphanum
    · exact ne_slash_of_mem_splitPath hpart hmem
    · decide
    · exact ⟨Text.ne_of_isAlphanum halphanum (by decide), Text.ne_of_isAlphanum halphanum (by decide)⟩
  exact hread _

/-- **The path is read again from its text.** -/
theorem readPath_pathText (hne : segments ≠ []) (h : ∀ segment ∈ segments, Settled segment) :
    readPath (pathText segments) = segments := by
  obtain ⟨first, others, rfl⟩ := List.exists_cons_of_ne_nil hne
  have hslash : ∀ segment ∈ first :: others, ∀ c ∈ segment, c ≠ '/' ∧ c ≠ '\\' :=
    fun segment hsegment c hc => ((h segment hsegment).1 c hc).2
  have hfirst : ∀ c ∈ first, c ≠ '/' ∧ c ≠ '\\' := hslash first List.mem_cons_self
  have hothers : ∀ segment ∈ others, ∀ c ∈ segment, c ≠ '/' ∧ c ≠ '\\' := fun segment hsegment =>
    hslash segment (List.mem_cons_of_mem first hsegment)
  have hencode : (first :: others).map (Percent.encode Percent.isPathUnsafe) = first :: others := by
    refine (List.map_congr_left fun segment hsegment => ?_).trans (List.map_id _)
    exact Percent.encode_eq_self fun c hc => ((h segment hsegment).1 c hc).1
  have htext : pathText (first :: others) = '/' :: (first ++ pathText others) := rfl
  rw [htext, readPath, splitPath_pathText hothers hfirst, hencode, resolveDots_of_settled h]
  rfl

end Paths

/-! ## Ports -/

theorem foldl_digitsText (n : Nat) :
    (Binary64.digitsText n).foldl (fun total c => total * 10 + (c.toNat - 48)) 0 = n := by
  have hvalue : Nat.ofDigitChars 10 (Nat.toDigits 10 n) 0 = n := Nat.ofDigitChars_ten_toDigits
  rw [Nat.ofDigitChars_eq_foldl] at hvalue
  simp only [Nat.mul_comm 10] at hvalue
  exact hvalue

theorem lt_of_readPortPart {port : Nat} (h : readPortPart text = .ok (some port)) : port < 65536 := by
  unfold readPortPart at h
  split at h
  · unfold readPort at h
    dsimp only at h
    split_ifs at h with hdigits hempty hlt
    · cases h
    · cases h
      exact hlt
  · cases h

/-- **A port is read again from its text.** -/
theorem readPortPart_portText {port? : Option Nat} (h : ∀ port, port? = some port → port < 65536) :
    readPortPart (portText port?) = .ok port? := by
  cases port? with
  | none => rfl
  | some port =>
    have hdigits : (Binary64.digitsText port).all Char.isDigit = true :=
      List.all_eq_true.mpr fun c hc => WebHost.isDigit_of_mem_digitsText hc
    change readPort (Binary64.digitsText port) = _
    rw [readPort, if_pos hdigits, List.isEmpty_eq_false_iff.mpr (WebHost.digitsText_ne_nil port),
      if_neg Bool.false_ne_true]
    dsimp only
    rw [foldl_digitsText, if_pos (h port rfl)]

/-! ## User names and passwords -/

section Users

variable {user place username password : List Char}

theorem cutUser_append (h : '@' ∉ place) (user : List Char) :
    cutUser (user ++ '@' :: place) = (some user, place) := by
  -- The last sign is the first one from behind.
  have hafter : ((user ++ '@' :: place).reverse.takeWhile (· != '@')).reverse = place := by
    rw [List.reverse_append, List.reverse_cons, List.append_assoc, List.singleton_append,
      takeWhile_append_of_head?, List.reverse_reverse]
    · intro c hc
      have hne : c ≠ '@' := fun heq => h (heq ▸ List.mem_reverse.mp hc)
      exact bne_iff_ne.mpr hne
    · rintro c ⟨⟩
      rfl
  have hsign : (user ++ '@' :: place).contains '@' = true :=
    List.contains_iff_mem.mpr (List.mem_append_right user List.mem_cons_self)
  have hlength : (user ++ '@' :: place).length - place.length - 1 = user.length := by
    rw [List.length_append, List.length_cons]
    omega
  rw [cutUser]
  rw [hafter, if_pos hsign, hlength, List.take_left]

theorem cutUser_of_notMem (h : '@' ∉ text) : cutUser text = (none, text) :=
  if_neg fun hsign => h (List.contains_iff_mem.mp hsign)

theorem readUser_of_notMem (h : ':' ∉ user) :
    readUser user = (Percent.encode Percent.isUserUnsafe user, []) := by
  have hdrop : user.dropWhile (· != ':') = [] :=
    List.dropWhile_eq_nil_iff.mpr fun c hc => bne_iff_ne.mpr fun heq => h (heq ▸ hc)
  rw [readUser]
  rw [hdrop]

theorem readUser_append (h : ':' ∉ user) (password : List Char) :
    readUser (user ++ ':' :: password) =
      (Percent.encode Percent.isUserUnsafe user, Percent.encode Percent.isUserUnsafe password) := by
  have hall : ∀ c ∈ user, (c != ':') = true := fun c hc => bne_iff_ne.mpr fun heq => h (heq ▸ hc)
  have hstop : ∀ c, (':' :: password).head? = some c → (c != ':') = false := by
    rintro c ⟨⟩
    rfl
  rw [readUser]
  rw [dropWhile_append_of_head? hall hstop, takeWhile_append_of_head? hall hstop]

/-- The user name and the password are encoded as they are read. -/
theorem safe_readUser (text : List Char) :
    (∀ c ∈ (readUser text).1, Percent.isUserUnsafe c = false) ∧
      ∀ c ∈ (readUser text).2, Percent.isUserUnsafe c = false := by
  rw [readUser]
  split
  · exact ⟨fun c => Percent.isUserUnsafe_of_mem_encode, fun _ h => absurd h List.not_mem_nil⟩
  · exact ⟨fun c => Percent.isUserUnsafe_of_mem_encode, fun c => Percent.isUserUnsafe_of_mem_encode⟩

/-- **A user name and a password are read again from their text**, and what follows it is left. -/
theorem cutUser_userText (husername : ∀ c ∈ username, Percent.isUserUnsafe c = false)
    (hpassword : ∀ c ∈ password, Percent.isUserUnsafe c = false) (hplace : '@' ∉ place) :
    ∃ user?, cutUser (userText username password ++ place) = (user?, place) ∧
      readUser (user?.getD []) = (username, password) := by
  have hcolon : ':' ∉ username := fun h => absurd (husername ':' h) (by decide)
  have hname := Percent.encode_eq_self husername
  have hsecret := Percent.encode_eq_self hpassword
  rw [userText]
  split_ifs with hnone hempty
  · rw [Bool.and_eq_true, List.isEmpty_iff, List.isEmpty_iff] at hnone
    obtain ⟨rfl, rfl⟩ := hnone
    exact ⟨none, cutUser_of_notMem hplace, rfl⟩
  · rw [List.isEmpty_iff.mp hempty]
    refine ⟨some username, ?_, ?_⟩
    · rw [List.append_assoc, List.singleton_append, cutUser_append hplace]
    · rw [Option.getD_some, readUser_of_notMem hcolon, hname]
  · refine ⟨some (username ++ ':' :: password), ?_, ?_⟩
    · rw [← List.cons_append, ← List.append_assoc, List.append_assoc, List.singleton_append,
        cutUser_append hplace]
    · rw [Option.getD_some, readUser_append hcolon, hname, hsecret]

end Users

/-! ## Hosts -/

theorem cutHost_append (htext : ∀ c ∈ text, c ≠ ':' ∧ c ≠ '[')
    (hrest : ∀ c, rest.head? = some c → c = ':') : cutHost false (text ++ rest) = (text, rest) := by
  induction text with
  | nil =>
    cases rest with
    | nil => rfl
    | cons c rest =>
      rw [hrest c rfl]
      rfl
  | cons c text ih =>
    rw [List.forall_mem_cons] at htext
    have hopen : (if c = '[' then true else if c = ']' then false else false) = false := by
      rw [if_neg htext.1.2, ite_self]
    rw [List.cons_append, cutHost, if_neg fun h => htext.1.1 h.1, hopen, ih htext.2]

theorem cutHost_bracketed (h : ∀ c ∈ text, c ≠ '[' ∧ c ≠ ']') (rest : List Char) :
    cutHost true (text ++ ']' :: rest) =
      (text ++ ']' :: (cutHost false rest).1, (cutHost false rest).2) := by
  induction text with
  | nil => rfl
  | cons c text ih =>
    rw [List.forall_mem_cons] at h
    have hopen : (if c = '[' then true else if c = ']' then false else true) = true := by
      rw [if_neg h.1.1, if_neg h.1.2]
    rw [List.cons_append, cutHost, if_neg (by simp), hopen, ih h.2, List.cons_append]

/-- **A host is found in front of a port.** -/
theorem cutHost_render [DomainNames] {host : WebHost} (h : host.Canonical)
    (hrest : ∀ c, rest.head? = some c → c = ':') :
    cutHost false (host.render ++ rest) = (host.render, rest) := by
  have hplain {text : List Char} (h : ∀ c ∈ text, WebHost.isForbidden c = false) :
      cutHost false (text ++ rest) = (text, rest) :=
    cutHost_append (fun c hc => ⟨Percent.ne_of_safe (h c hc) (by decide),
      Percent.ne_of_safe (h c hc) (by decide)⟩) hrest
  match host, h with
  | .name text, ⟨_, _, _, htext⟩ => exact hplain htext
  | .ipv4 address, _ => exact hplain fun c hc => WebHost.not_isForbidden_of_mem_ipv4Text hc
  | .ipv6 pieces, _ =>
    have hbrackets : ∀ c ∈ WebHost.ipv6Text pieces, c ≠ '[' ∧ c ≠ ']' := by
      intro c hc
      rcases WebHost.of_mem_ipv6Text hc with rfl | halphanum
      · decide
      · exact ⟨Text.ne_of_isAlphanum halphanum (by decide),
          Text.ne_of_isAlphanum halphanum (by decide)⟩
    have hnone : cutHost false ([] ++ rest) = ([], rest) :=
      cutHost_append (fun _ h => absurd h List.not_mem_nil) hrest
    rw [List.nil_append] at hnone
    have hopen : cutHost false ('[' :: (WebHost.ipv6Text pieces ++ ']' :: rest)) =
        ('[' :: (cutHost true (WebHost.ipv6Text pieces ++ ']' :: rest)).1,
          (cutHost true (WebHost.ipv6Text pieces ++ ']' :: rest)).2) := rfl
    change cutHost false ('[' :: (WebHost.ipv6Text pieces ++ [']'] ++ rest)) = _
    rw [List.append_assoc, List.singleton_append, hopen, cutHost_bracketed hbrackets, hnone]
    rfl

end Runbook.Url
