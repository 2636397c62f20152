import Mathlib.Algebra.Group.Nat.Defs
import Mathlib.Data.List.Induction
import Mathlib.Data.List.TakeWhile
import Runbook.Proofs.Traversal
import Runbook.Proofs.Url.Percent
import Runbook.Url.Host

/-! # Numeric addresses

An address of four bytes or of eight pieces can be written in many ways. Of those it has one text, from
which it is read again.

* **`WebHost.numberOf?_toDigits`** — the digits of a number are read as the number.
* **`WebHost.ipv4Of?_eq_some_iff`** — which parts make an address of four bytes.
* **`WebHost.ipv4Of?_ipv4Text`**, **`WebHost.ipv6Of?_ipv6Text`** — addresses are read again.
* **`WebHost.lt_of_ipv4Of?`**, **`WebHost.of_ipv6Of?`** — what is read is no larger than its kind
  allows.
* **`WebHost.cutAtGap_groupText`**, **`WebHost.take_append_gap`** — a gap is found where it was made, and
  it stands for zero pieces. -/

namespace Runbook.WebHost

variable {c : Char} {text : List Char} {n : Nat}

/-! ## Numbers -/

theorem hexValue?_digitChar : ∀ n < 16, Text.hexValue? n.digitChar = some n := by decide

theorem isAlphanum_digitChar : ∀ n < 16, n.digitChar.isAlphanum = true := by decide

/-- One more digit. -/
theorem numberOf?_concat (base : Nat) (text : List Char) (c : Char) :
    numberOf? base (text ++ [c]) = (numberOf? base text).bind fun total =>
      match Text.hexValue? c with
      | some value => if value < base then some (total * base + value) else none
      | none => none := by
  rw [numberOf?, List.foldlM_append, numberOf?]
  exact congrArg (Option.bind _) (funext fun total => bind_pure _)

theorem numberOf?_concat_digitChar {base : Nat} (hle : base ≤ 16) (hlt : n < base) (text : List Char) :
    numberOf? base (text ++ [n.digitChar]) =
      (numberOf? base text).map fun total => total * base + n := by
  rw [numberOf?_concat, hexValue?_digitChar n (by omega)]
  simp only [hlt, if_true, Option.map_eq_bind]
  rfl

/-- **The digits of a number are read as the number.** -/
theorem numberOf?_toDigits {base : Nat} (hbase : 1 < base) (hle : base ≤ 16) (n : Nat) :
    numberOf? base (Nat.toDigits base n) = some n := by
  induction n using Nat.strong_induction_on with
  | _ n ih =>
    by_cases hlt : n < base
    · have hempty : numberOf? base [] = some 0 := rfl
      rw [Nat.toDigits_of_lt_base hlt, ← List.nil_append [n.digitChar],
        numberOf?_concat_digitChar hle hlt, hempty, Option.map_some, Nat.zero_mul, Nat.zero_add]
    · have hpos : 0 < base := by omega
      have hdiv : n / base < n := Nat.div_lt_self (by omega) hbase
      rw [Nat.toDigits_of_base_le hbase (Nat.not_lt.mp hlt),
        numberOf?_concat_digitChar hle (Nat.mod_lt n hpos), ih _ hdiv, Option.map_some,
        Nat.div_add_mod']

theorem isAlphanum_of_mem_toDigits {base : Nat} (hbase : 1 < base) (hle : base ≤ 16)
    (h : c ∈ Nat.toDigits base n) : c.isAlphanum = true := by
  induction n using Nat.strong_induction_on with
  | _ n ih =>
    by_cases hlt : n < base
    · rw [Nat.toDigits_of_lt_base hlt, List.mem_singleton] at h
      rw [h]
      exact isAlphanum_digitChar n (by omega)
    · have hmod : n % base < base := Nat.mod_lt n (by omega)
      rw [Nat.toDigits_of_base_le hbase (Nat.not_lt.mp hlt), List.mem_append, List.mem_singleton] at h
      rcases h with h | rfl
      · exact ih _ (Nat.div_lt_self (by omega) hbase) h
      · exact isAlphanum_digitChar _ (by omega)

/-- A number of a few digits is small. -/
theorem numberOf?_lt {base : Nat} (h : numberOf? base text = some n) :
    n < base ^ text.length := by
  induction text using List.reverseRecOn generalizing n with
  | nil =>
    cases h
    exact Nat.one_pos
  | append_singleton text c ih =>
    rw [numberOf?_concat, Option.bind_eq_some_iff] at h
    obtain ⟨total, htotal, h⟩ := h
    have hlt := ih htotal
    split at h
    · split_ifs at h with hvalue
      cases h
      rw [List.length_append, List.length_singleton, Nat.pow_succ]
      calc total * base + _ < total * base + base := Nat.add_lt_add_left hvalue _
        _ = (total + 1) * base := (Nat.succ_mul total base).symm
        _ ≤ base ^ text.length * base := Nat.mul_le_mul_right base hlt
    · cases h

/-! ## Parts between separators -/

variable {separator : Char} {part : List Char}

theorem splitAt_append (h : separator ∉ part) (rest : List Char) :
    splitAt separator (part ++ separator :: rest) = part :: splitAt separator rest := by
  induction part with
  | nil => rw [List.nil_append, splitAt, if_pos rfl]
  | cons c part ih =>
    rw [List.mem_cons, not_or] at h
    obtain ⟨hc, hpart⟩ := h
    rw [List.cons_append, splitAt, if_neg (Ne.symm hc), ih hpart]

theorem splitAt_of_notMem (h : separator ∉ part) : splitAt separator part = [part] := by
  induction part with
  | nil => rfl
  | cons c part ih =>
    rw [List.mem_cons, not_or] at h
    obtain ⟨hc, hpart⟩ := h
    rw [splitAt, if_neg (Ne.symm hc), ih hpart]

/-! ## Addresses of four bytes -/

theorem ipv4Number?_digitsText : ∀ n < 256, ipv4Number? (Binary64.digitsText n) = some n := by
  decide +kernel

/-- The bytes of an address. -/
def bytesOf (address : Nat) : List Nat :=
  [address / 16777216 % 256, address / 65536 % 256, address / 256 % 256, address % 256]

theorem lt_of_mem_bytesOf {address : Nat} (h : n ∈ bytesOf address) : n < 256 := by
  simp only [bytesOf, List.mem_cons, List.not_mem_nil, or_false] at h
  omega

theorem isDigit_of_mem_digitsText (h : c ∈ Binary64.digitsText n) : c.isDigit = true :=
  Nat.isDigit_of_mem_toDigits (by decide) (by decide) h

theorem digitsText_ne_nil (n : Nat) : Binary64.digitsText n ≠ [] := Nat.toDigits_ne_nil

/-- The bytes are found between the dots. -/
theorem splitAt_ipv4Text (address : Nat) :
    splitAt '.' (ipv4Text address) = (bytesOf address).map Binary64.digitsText := by
  have hdot (n : Nat) : '.' ∉ Binary64.digitsText n := fun h =>
    absurd (isDigit_of_mem_digitsText h) (by decide)
  have hpowers : Nat.pow 256 3 = 16777216 ∧ Nat.pow 256 2 = 65536 ∧ Nat.pow 256 1 = 256 ∧
      Nat.pow 256 0 = 1 := by decide
  obtain ⟨hthree, htwo, hone, hzero⟩ := hpowers
  rw [ipv4Text]
  dsimp only
  rw [hthree, htwo, hone, hzero, Nat.div_one, splitAt_append (hdot _), splitAt_append (hdot _),
    splitAt_append (hdot _), splitAt_of_notMem (hdot _)]
  rfl

theorem labels_ipv4Text (address : Nat) :
    labels (ipv4Text address) = (bytesOf address).map Binary64.digitsText := by
  rw [labels, splitAt_ipv4Text]
  refine if_neg fun h => ?_
  exact digitsText_ne_nil _ (Option.some.inj h.1)

theorem endsInNumber_ipv4Text (address : Nat) : endsInNumber (ipv4Text address) = true := by
  have hdigits : (Binary64.digitsText (address % 256)).all Char.isDigit = true :=
    List.all_eq_true.mpr fun c hc => isDigit_of_mem_digitsText hc
  have hlast : ((bytesOf address).map Binary64.digitsText).getLast? =
      some (Binary64.digitsText (address % 256)) := rfl
  rw [endsInNumber, labels_ipv4Text, hlast]
  simp only [hdigits, List.isEmpty_eq_false_iff.mpr (digitsText_ne_nil _)]
  rfl

theorem of_mem_ipv4Text {address : Nat} (h : c ∈ ipv4Text address) : c = '.' ∨ c.isDigit = true := by
  simp only [ipv4Text, List.mem_append, List.mem_cons] at h
  obtain h | h | h | h | h | h | h := h
  all_goals first | exact .inl h | exact .inr (isDigit_of_mem_digitsText h)

theorem ipv4Text_ne_nil (address : Nat) : ipv4Text address ≠ [] :=
  List.append_ne_nil_of_right_ne_nil _ (List.cons_ne_nil _ _)

/-- The number that bytes write, the first one first. -/
def bytesValue (bytes : List Nat) : Nat := bytes.foldl (fun total n => total * 256 + n) 0

theorem bytesValue_concat (bytes : List Nat) (byte : Nat) :
    bytesValue (bytes ++ [byte]) = bytesValue bytes * 256 + byte := by
  rw [bytesValue, List.foldl_append]
  rfl

theorem bytesValue_lt {bytes : List Nat} (h : ∀ n ∈ bytes, n < 256) :
    bytesValue bytes < 256 ^ bytes.length := by
  induction bytes using List.reverseRecOn with
  | nil => exact Nat.one_pos
  | append_singleton bytes byte ih =>
    have hbyte : byte < 256 := h byte (List.mem_append_right bytes (List.mem_singleton_self byte))
    have hbytes := ih fun n hn => h n (List.mem_append_left [byte] hn)
    rw [bytesValue_concat, List.length_append, List.length_singleton, Nat.pow_succ]
    omega

/-- **The address of parts that are numbers**: all but the last are bytes, and the last has the room
that is left. -/
theorem ipv4Of?_eq_some_iff {address : Nat} :
    ipv4Of? text = some address ↔
      ∃ others last, (labels text).mapM ipv4Number? = some (others ++ [last]) ∧ others.length ≤ 3 ∧
        (∀ n ∈ others, n < 256) ∧ last < 256 ^ (4 - others.length) ∧
        address = bytesValue others * 256 ^ (4 - others.length) + last := by
  unfold ipv4Of?
  dsimp only
  cases hnumbers : (labels text).mapM ipv4Number? with
  | none => simp
  | some numbers =>
    have hlength : (labels text).length = numbers.length :=
      (mapM_eq_some_iff_forall₂.mp hnumbers).length_eq
    rw [hlength]
    rcases List.eq_nil_or_concat numbers with rfl | ⟨others, last, rfl⟩
    · simp
    · have hany : others.any (255 < ·) = true ↔ ¬ ∀ n ∈ others, n < 256 := by
        simp [Nat.succ_le_iff]
      have hparts (others' : List Nat) (last' : Nat) :
          some (others ++ [last]) = some (others' ++ [last']) ↔ others' = others ∧ last' = last := by
        rw [Option.some_inj, List.append_singleton_inj, eq_comm, @eq_comm _ last]
      simp only [List.concat_eq_append, List.getLast?_concat, List.dropLast_concat, List.length_append,
        List.length_singleton, Bool.or_eq_true, hany, decide_eq_true_eq, hparts, Nat.pow_eq]
      constructor
      · intro h
        split_ifs at h with hmany hlarge
        rw [not_or, not_not, Nat.not_le] at hlarge
        obtain ⟨hbytes, hlast⟩ := hlarge
        cases h
        exact ⟨others, last, ⟨rfl, rfl⟩, by omega, hbytes, hlast, rfl⟩
      · rintro ⟨others', last', ⟨rfl, rfl⟩, hmany, hbytes, hlast, rfl⟩
        have hsmall : ¬ ((¬ ∀ n ∈ others', n < 256) ∨ 256 ^ (4 - others'.length) ≤ last') := by
          rw [not_or, not_not, Nat.not_le]
          exact ⟨hbytes, hlast⟩
        rw [if_neg (by omega), if_neg hsmall]
        rfl

/-- An address has four bytes. -/
theorem lt_of_ipv4Of? {address : Nat} (h : ipv4Of? text = some address) : address < 4294967296 := by
  obtain ⟨others, last, -, hmany, hbytes, hlast, rfl⟩ := ipv4Of?_eq_some_iff.mp h
  have hpower : 256 ^ others.length * 256 ^ (4 - others.length) = 4294967296 := by
    rw [← Nat.pow_add, Nat.add_sub_cancel' (by omega)]
  calc bytesValue others * 256 ^ (4 - others.length) + last
      < bytesValue others * 256 ^ (4 - others.length) + 256 ^ (4 - others.length) :=
        Nat.add_lt_add_left hlast _
    _ = (bytesValue others + 1) * 256 ^ (4 - others.length) := (Nat.succ_mul _ _).symm
    _ ≤ 256 ^ others.length * 256 ^ (4 - others.length) :=
        Nat.mul_le_mul_right _ (bytesValue_lt hbytes)
    _ = 4294967296 := hpower

/-- **The text of an address of four bytes is read as the address.** -/
theorem ipv4Of?_ipv4Text {address : Nat} (h : address < 4294967296) :
    ipv4Of? (ipv4Text address) = some address := by
  have hread : (labels (ipv4Text address)).mapM ipv4Number? = some (bytesOf address) := by
    rw [labels_ipv4Text]
    exact mapM_map_eq_some fun n hn => ipv4Number?_digitsText n (lt_of_mem_bytesOf hn)
  refine ipv4Of?_eq_some_iff.mpr ⟨(bytesOf address).take 3, address % 256, hread, ?_, ?_, ?_, ?_⟩
  · exact Nat.le_refl 3
  · exact fun n hn => lt_of_mem_bytesOf (List.mem_of_mem_take hn)
  · exact Nat.mod_lt address (by decide)
  · change address = ((((0 * 256 + address / 16777216 % 256) * 256 + address / 65536 % 256) * 256
      + address / 256 % 256) * 256 ^ 1 + address % 256)
    omega

/-! ## Addresses of eight pieces -/

/-- **The digits of a piece are read as the piece.** -/
theorem pieceOf?_toDigits (h : n < 65536) : pieceOf? (Nat.toDigits 16 n) = some n := by
  have hlength : (Nat.toDigits 16 n).length ≤ 4 :=
    (Nat.length_toDigits_le_iff (by decide) (by decide)).mpr h
  have hempty : (Nat.toDigits 16 n).isEmpty = false :=
    List.isEmpty_eq_false_iff.mpr Nat.toDigits_ne_nil
  rw [pieceOf?, hempty, Bool.false_or, if_neg (by simpa using hlength)]
  exact numberOf?_toDigits (by decide) (by decide) n

theorem lt_of_pieceOf? (h : pieceOf? text = some n) : n < 65536 := by
  rw [pieceOf?] at h
  split_ifs at h with hlength
  simp only [Bool.or_eq_true, decide_eq_true_eq, not_or, Nat.not_lt] at hlength
  calc n < 16 ^ text.length := numberOf?_lt h
    _ ≤ 16 ^ 4 := Nat.pow_le_pow_right (by decide) hlength.2

theorem lt_of_byteOf? (h : byteOf? text = some n) : n < 256 := by
  unfold byteOf? at h
  split_ifs at h
  split at h
  · split_ifs at h with hlt
    cases h
    exact hlt
  · cases h

variable {pieces : List Nat} {parts : List (List Char)}

/-- Bytes between dots make pieces. -/
theorem lt_of_mem_tailOf? (h : tailOf? text = some pieces) (hn : n ∈ pieces) : n < 65536 := by
  rw [tailOf?] at h
  split at h
  · rename_i a b c d hbytes
    cases h
    have hlt : ∀ byte ∈ [a, b, c, d], byte < 256 := fun byte hbyte =>
      have ⟨part, _, hpart⟩ := exists_of_mem_mapM hbytes hbyte
      lt_of_byteOf? hpart
    simp only [List.forall_mem_cons] at hlt
    simp only [List.mem_cons, List.not_mem_nil, or_false] at hn
    omega
  · cases h

theorem lt_of_mem_piecesOf? (h : piecesOf? parts = some pieces) (hn : n ∈ pieces) : n < 65536 := by
  induction parts using piecesOf?.induct generalizing pieces with
  | case1 =>
    cases h
    cases hn
  | case2 last hdot =>
    rw [piecesOf?, if_pos hdot] at h
    exact lt_of_mem_tailOf? h hn
  | case3 last hdot =>
    rw [piecesOf?, if_neg hdot, Option.map_eq_some_iff] at h
    obtain ⟨piece, hpiece, rfl⟩ := h
    rw [List.mem_singleton.mp hn]
    exact lt_of_pieceOf? hpiece
  | case4 text rest hrest ih =>
    rw [piecesOf?] at h
    simp only [Option.bind_eq_bind, Option.bind_eq_some_iff, Option.some_inj] at h
    obtain ⟨piece, hpiece, others, hothers, rfl⟩ := h
    rcases List.mem_cons.mp hn with rfl | hn
    · exact lt_of_pieceOf? hpiece
    · exact ih hothers hn
    · exact hrest

theorem lt_of_mem_groupOf? (h : groupOf? text = some pieces) (hn : n ∈ pieces) : n < 65536 := by
  rw [groupOf?] at h
  split_ifs at h
  · cases h
    cases hn
  · exact lt_of_mem_piecesOf? h hn

/-- **An address has eight pieces of two bytes.** -/
theorem of_ipv6Of? (h : ipv6Of? text = some pieces) :
    pieces.length = 8 ∧ ∀ n ∈ pieces, n < 65536 := by
  rw [ipv6Of?] at h
  split at h
  · split at h
    · rename_i found hfound
      split_ifs at h with hlength
      cases h
      exact ⟨hlength, fun n hn => lt_of_mem_groupOf? hfound hn⟩
    · cases h
  · split_ifs at h with hdot
    simp only [Option.bind_eq_bind, Option.bind_eq_some_iff] at h
    obtain ⟨before, hbefore, after, hafter, h⟩ := h
    split_ifs at h with hlength
    cases h
    refine ⟨?_, fun n hn => ?_⟩
    · simp only [List.length_append, List.length_replicate]
      omega
    · simp only [List.mem_append, List.mem_replicate] at hn
      rcases hn with (hn | ⟨-, rfl⟩) | hn
      · exact lt_of_mem_groupOf? hbefore hn
      · decide
      · exact lt_of_mem_groupOf? hafter hn

theorem groupText_cons (piece : Nat) (h : pieces ≠ []) :
    groupText (piece :: pieces) = Nat.toDigits 16 piece ++ ':' :: groupText pieces := by
  rw [groupText]
  exact h

/-- The characters of pieces. -/
theorem of_mem_groupText (h : c ∈ groupText pieces) : c = ':' ∨ c.isAlphanum = true := by
  have hdigits {n : Nat} (h : c ∈ Nat.toDigits 16 n) : c.isAlphanum = true :=
    isAlphanum_of_mem_toDigits (by decide) (by decide) h
  induction pieces using groupText.induct with
  | case1 => cases h
  | case2 piece => exact .inr (hdigits h)
  | case3 piece rest hrest ih =>
    rw [groupText_cons piece hrest, List.mem_append, List.mem_cons] at h
    obtain h | h | h := h
    · exact .inr (hdigits h)
    · exact .inl h
    · exact ih h

theorem colon_notMem_toDigits (n : Nat) : ':' ∉ Nat.toDigits 16 n := fun h =>
  absurd (isAlphanum_of_mem_toDigits (by decide) (by decide) h) (by decide)

theorem dot_notMem_groupText (pieces : List Nat) : '.' ∉ groupText pieces := fun h =>
  absurd (of_mem_groupText h) (by decide)

theorem groupText_ne_nil (h : pieces ≠ []) : groupText pieces ≠ [] := by
  match pieces, h with
  | [piece], _ => exact Nat.toDigits_ne_nil
  | piece :: second :: rest, _ =>
    rw [groupText_cons piece (List.cons_ne_nil second rest)]
    exact List.append_ne_nil_of_right_ne_nil _ (List.cons_ne_nil _ _)

/-- The digits of pieces are found between the colons. -/
theorem splitAt_groupText (h : pieces ≠ []) :
    splitAt ':' (groupText pieces) = pieces.map (Nat.toDigits 16) := by
  induction pieces using groupText.induct with
  | case1 => exact absurd rfl h
  | case2 piece => exact splitAt_of_notMem (colon_notMem_toDigits piece)
  | case3 piece rest hrest ih =>
    rw [groupText_cons piece hrest, splitAt_append (colon_notMem_toDigits piece), ih hrest,
      List.map_cons]

theorem piecesOf?_map (h : ∀ n ∈ pieces, n < 65536) :
    piecesOf? (pieces.map (Nat.toDigits 16)) = some pieces := by
  induction pieces using groupText.induct with
  | case1 => rfl
  | case2 piece =>
    have hdot : (Nat.toDigits 16 piece).contains '.' = false := by
      rw [Bool.eq_false_iff, Ne, List.contains_iff_mem]
      exact dot_notMem_groupText [piece]
    rw [List.map_cons, List.map_nil, piecesOf?, hdot, if_neg Bool.false_ne_true,
      pieceOf?_toDigits (h piece (List.mem_singleton_self piece)), Option.map_some]
  | case3 piece rest hrest ih =>
    rw [List.forall_mem_cons] at h
    rw [List.map_cons, piecesOf?, pieceOf?_toDigits h.1, ih h.2]
    · rfl
    · exact fun heq => hrest (List.map_eq_nil_iff.mp heq)

/-- **Pieces between colons are read again.** -/
theorem groupOf?_groupText (h : ∀ n ∈ pieces, n < 65536) : groupOf? (groupText pieces) = some pieces := by
  by_cases hnil : pieces = []
  · subst hnil
    rfl
  · rw [groupOf?, List.isEmpty_eq_false_iff.mpr (groupText_ne_nil hnil), if_neg Bool.false_ne_true,
      splitAt_groupText hnil, piecesOf?_map h]

/-! ### The gap -/

theorem cutAtGap_cons (h : c ≠ ':' ∨ ¬ [':'] <+: text) :
    cutAtGap (c :: text) = (c :: (cutAtGap text).1, (cutAtGap text).2) := by
  rw [cutAtGap]
  rintro rest rfl rfl
  exact h.elim (fun h => h rfl) fun h => h ⟨rest, rfl⟩

theorem cutAtGap_append (h : ':' ∉ text) (rest : List Char) :
    cutAtGap (text ++ rest) = (text ++ (cutAtGap rest).1, (cutAtGap rest).2) := by
  induction text with
  | nil => rfl
  | cons c text ih =>
    rw [List.mem_cons, not_or] at h
    rw [List.cons_append, cutAtGap_cons (.inl (Ne.symm h.1)), ih h.2, List.cons_append]

theorem not_colon_prefix_groupText (h : pieces ≠ []) (rest : List Char) :
    ¬ [':'] <+: groupText pieces ++ rest := by
  obtain ⟨piece, others, rfl⟩ := List.exists_cons_of_ne_nil h
  have hbegin : ∃ more, groupText (piece :: others) ++ rest = Nat.toDigits 16 piece ++ more := by
    by_cases hothers : others = []
    · exact ⟨rest, by rw [hothers, groupText]⟩
    · refine ⟨':' :: groupText others ++ rest, ?_⟩
      rw [groupText_cons piece hothers, List.append_assoc]
  obtain ⟨more, hmore⟩ := hbegin
  obtain ⟨c, digits, hdigits⟩ := List.exists_cons_of_ne_nil (Nat.toDigits_ne_nil (n := piece) (b := 16))
  have hcolon : ':' ∉ c :: digits := hdigits ▸ colon_notMem_toDigits piece
  rw [hmore, hdigits, List.cons_append, List.cons_prefix_cons]
  exact fun hbegins => hcolon (List.mem_cons.mpr (.inl hbegins.1))

/-- There is no gap in pieces between colons. -/
theorem cutAtGap_groupText (pieces : List Nat) (rest : List Char) :
    cutAtGap (groupText pieces ++ rest) =
      (groupText pieces ++ (cutAtGap rest).1, (cutAtGap rest).2) := by
  induction pieces using groupText.induct with
  | case1 => rfl
  | case2 piece => exact cutAtGap_append (colon_notMem_toDigits piece) rest
  | case3 piece others hothers ih =>
    -- The colon between two pieces has a digit behind it, so that no gap begins with it.
    rw [groupText_cons piece hothers, List.append_assoc, List.cons_append,
      cutAtGap_append (colon_notMem_toDigits piece),
      cutAtGap_cons (.inr (not_colon_prefix_groupText hothers rest)), ih, List.append_assoc,
      List.cons_append]

/-- **The gap is made of zero pieces.** -/
theorem longestGap_le (pieces : List Nat) :
    (longestGap pieces).2 ≤ zeroRun (pieces.drop (longestGap pieces).1) := by
  rw [longestGap]
  refine List.foldlRecOn (motive := fun best : Nat × Nat => best.2 ≤ zeroRun (pieces.drop best.1)) _ _
    (Nat.zero_le _) fun best hbest start _ => ?_
  dsimp only
  split_ifs
  · exact Nat.le_refl _
  · exact hbest

theorem zeroRun_le (pieces : List Nat) : zeroRun pieces ≤ pieces.length :=
  (List.takeWhile_prefix _).length_le

theorem take_of_le_zeroRun {size : Nat} (h : size ≤ zeroRun pieces) :
    pieces.take size = List.replicate size 0 := by
  have hbegins : pieces.take size <+: pieces.takeWhile (· == 0) :=
    List.prefix_of_prefix_length_le (List.take_prefix size pieces) (List.takeWhile_prefix _)
      ((List.length_take_le size pieces).trans h)
  refine List.eq_replicate_iff.mpr ⟨?_, fun n hn => ?_⟩
  · rw [List.length_take, Nat.min_eq_left (h.trans (zeroRun_le pieces))]
  · have hzero := List.mem_takeWhile_imp (hbegins.subset hn)
    exact beq_iff_eq.mp hzero

/-- Pieces before the gap, in it and behind it. -/
theorem take_append_gap {start size : Nat} (h : size ≤ zeroRun (pieces.drop start)) :
    pieces.take start ++ List.replicate size 0 ++ pieces.drop (start + size) = pieces := by
  rw [← take_of_le_zeroRun h, ← List.drop_drop, List.append_assoc, List.take_append_drop,
    List.take_append_drop]

/-- Eight pieces without a gap are read again. -/
theorem ipv6Of?_groupText (hlength : pieces.length = 8) (h : ∀ n ∈ pieces, n < 65536) :
    ipv6Of? (groupText pieces) = some pieces := by
  have hcut : cutAtGap (groupText pieces) = (groupText pieces, none) := by
    have happend := cutAtGap_groupText pieces []
    rwa [List.append_nil, cutAtGap, List.append_nil] at happend
  rw [ipv6Of?, hcut]
  dsimp only
  rw [groupOf?_groupText h]
  exact if_pos hlength

/-- Pieces around a gap are read with zero pieces in its place. -/
theorem ipv6Of?_gap {before after : List Nat} (hbefore : ∀ n ∈ before, n < 65536)
    (hafter : ∀ n ∈ after, n < 65536) (hlength : before.length + after.length ≤ 7) :
    ipv6Of? (groupText before ++ ':' :: ':' :: groupText after) =
      some (before ++ List.replicate (8 - before.length - after.length) 0 ++ after) := by
  have hcut : cutAtGap (groupText before ++ ':' :: ':' :: groupText after) =
      (groupText before, some (groupText after)) := by
    rw [cutAtGap_groupText, cutAtGap, List.append_nil]
  have hdot : (groupText before).contains '.' = false := by
    rw [Bool.eq_false_iff, Ne, List.contains_iff_mem]
    exact dot_notMem_groupText before
  rw [ipv6Of?, hcut]
  dsimp only
  rw [hdot, if_neg Bool.false_ne_true, groupOf?_groupText hbefore, groupOf?_groupText hafter]
  exact if_pos hlength

/-- **The text of an address of eight pieces is read as the address.** -/
theorem ipv6Of?_ipv6Text (hlength : pieces.length = 8) (h : ∀ n ∈ pieces, n < 65536) :
    ipv6Of? (ipv6Text pieces) = some pieces := by
  have hgap := longestGap_le pieces
  rw [ipv6Text]
  generalize longestGap pieces = gap at hgap ⊢
  obtain ⟨start, size⟩ := gap
  dsimp only at hgap ⊢
  split_ifs with hsize
  · exact ipv6Of?_groupText hlength h
  · -- The gap lies within the eight pieces, and as many zero pieces are put in its place.
    have hroom : start + size ≤ 8 := by
      have hrun := hgap.trans (zeroRun_le _)
      rw [List.length_drop, hlength] at hrun
      omega
    have hbefore : (pieces.take start).length = start := by
      rw [List.length_take, hlength]
      omega
    have hafter : (pieces.drop (start + size)).length = 8 - (start + size) := by
      rw [List.length_drop, hlength]
    have hzeros : 8 - start - (8 - (start + size)) = size := by omega
    rw [ipv6Of?_gap (fun n hn => h n (List.mem_of_mem_take hn))
      (fun n hn => h n (List.mem_of_mem_drop hn)) (by omega), hbefore, hafter, hzeros,
      take_append_gap hgap]

theorem of_mem_ipv6Text (h : c ∈ ipv6Text pieces) : c = ':' ∨ c.isAlphanum = true := by
  rw [ipv6Text] at h
  dsimp only at h
  split_ifs at h
  · exact of_mem_groupText h
  · rw [List.mem_append, List.mem_cons, List.mem_cons] at h
    obtain h | h | h | h := h
    · exact of_mem_groupText h
    · exact .inl h
    · exact .inl h
    · exact of_mem_groupText h

end Runbook.WebHost
