import Mathlib.Data.List.Basic
import Runbook.Text.Octets

/-! # Bytes and octets of texts

The bytes of a text and its octet text are those of its characters, one after another. An ASCII text is
its own octet text, and no other text is written in its octets.

* **`Utf8.encode_eq`**, **`Octets.toList_ofText`** — bytes and octets character by character.
* **`Utf8.text?_encode`** — the bytes of a text are read as the text.
* **`Octets.ofText_append`**, **`Octets.slash_mem_ofText_iff`** — octet texts in parts.
* **`Octets.ofText_eq_iff`** — no other text is written in the octets of an ASCII text. -/

namespace Runbook

/-! ## Bytes -/

namespace Utf8

/-- The bytes that are collected from an index on are those that stand there. -/
theorem toList_loop (bytes : ByteArray) (index : Nat) (collected : Bytes) :
    ByteArray.toList.loop bytes index collected =
      collected.reverse ++ bytes.data.toList.drop index := by
  induction index, collected using ByteArray.toList.loop.induct bytes with
  | case1 index collected hlt ih =>
    have hlength : index < bytes.data.toList.length := by simpa using hlt
    have hbyte : bytes.get! index = bytes.data.toList[index] := by simp [ByteArray.get!, hlt]
    rw [ByteArray.toList.loop, if_pos hlt, ih, List.drop_eq_getElem_cons hlength, hbyte,
      List.reverse_cons, List.append_assoc, List.singleton_append]
  | case2 index collected hle =>
    have hlength : bytes.data.toList.length ≤ index := by simpa using hle
    rw [ByteArray.toList.loop, if_neg hle, List.drop_eq_nil_of_le hlength, List.append_nil]

theorem encode_eq_data (text : String) : encode text = text.toByteArray.data.toList := by
  rw [encode, String.toUTF8_eq_toByteArray, ByteArray.toList, toList_loop]
  rfl

/-- **The bytes of a text are those of its characters.** -/
theorem encode_eq (text : String) : encode text = text.toList.flatMap String.utf8EncodeChar := by
  rw [encode_eq_data, ← String.utf8Encode_toList, List.utf8Encode, List.toList_data_toByteArray]

/-- **The bytes of a text are read as the text.** -/
theorem text?_encode (text : String) : text? (encode text) = some text := by
  rw [text?, encode_eq_data, Array.toArray_toList, String.fromUTF8?, dif_pos text.isValidUTF8]
  rfl

end Utf8

/-! ## Octets -/

namespace Octets

variable {text other : String} {c octet : Char}

/-- The octets of a character. -/
def ofChar (c : Char) : List Char :=
  (String.utf8EncodeChar c).map fun byte => Char.ofNat byte.toNat

theorem toList_ofText (text : String) : (ofText text).toList = text.toList.flatMap ofChar := by
  rw [ofText, ofBytes, String.toList_ofList, Utf8.encode_eq, List.map_flatMap]
  rfl

theorem ofText_append (text other : String) : ofText (text ++ other) = ofText text ++ ofText other := by
  rw [← String.toList_inj]
  simp only [toList_ofText, String.toList_append, List.flatMap_append]

/-- An ASCII character is its own octet. -/
theorem ofChar_of_ascii (h : c.toNat < 128) : ofChar c = [c] := by
  have hcode : c.val.toNat = c.toNat := rfl
  have hbyte : c.toNat % 256 = c.toNat := by omega
  have hle : c.toNat ≤ 127 := by omega
  simp [ofChar, String.utf8EncodeChar, hcode, hle, hbyte]

/-- The octets of any other character are none of ASCII. -/
theorem le_of_mem_ofChar (h : 128 ≤ c.toNat) (hoctet : octet ∈ ofChar c) : 128 ≤ octet.toNat := by
  obtain ⟨byte, hbyte, rfl⟩ := List.mem_map.mp hoctet
  have hcode : c.val.toNat = c.toNat := rfl
  have hlt : byte.toNat < 256 := byte.toNat_lt
  have hoctetCode : (Char.ofNat byte.toNat).toNat = byte.toNat := by
    rw [Char.ofNat, dif_pos (.inl (by omega))]
    rfl
  rw [hoctetCode]
  simp only [String.utf8EncodeChar, hcode] at hbyte
  split_ifs at hbyte
  all_goals
    simp only [List.mem_cons, List.not_mem_nil, or_false] at hbyte
    rcases hbyte with rfl | rfl | rfl | rfl <;> simp <;> omega

/-- A slash among octets is a slash of the text. -/
theorem slash_mem_ofText_iff : '/' ∈ (ofText text).toList ↔ '/' ∈ text.toList := by
  rw [toList_ofText, List.mem_flatMap]
  constructor
  · rintro ⟨c, hc, hslash⟩
    by_cases hascii : c.toNat < 128
    · rw [ofChar_of_ascii hascii, List.mem_singleton] at hslash
      exact hslash ▸ hc
    · exact absurd (le_of_mem_ofChar (by omega) hslash) (by decide)
  · intro hmem
    exact ⟨'/', hmem, by rw [ofChar_of_ascii (by decide)]; exact List.mem_singleton_self _⟩

/-- An ASCII text is its own octet text. -/
theorem ofText_of_ascii (h : ∀ c ∈ text.toList, c.toNat < 128) : ofText text = text := by
  have hsingle : text.toList.flatMap ofChar = text.toList.flatMap fun c => [c] :=
    List.flatMap_congr fun c hc => ofChar_of_ascii (h c hc)
  rw [← String.toList_inj, toList_ofText, hsingle, List.flatMap_singleton']

/-- **No other text is written in the octets of an ASCII text.** -/
theorem ofText_eq_iff (hascii : ∀ c ∈ other.toList, c.toNat < 128) :
    ofText text = other ↔ text = other := by
  constructor
  · intro h
    have htext : ∀ c ∈ text.toList, c.toNat < 128 := by
      intro c hc
      by_contra hcode
      obtain ⟨octet, hoctet⟩ : ∃ octet, octet ∈ ofChar c :=
        List.exists_mem_of_ne_nil _ fun hnil =>
          String.utf8EncodeChar_ne_nil (List.map_eq_nil_iff.mp hnil)
      have hmem : octet ∈ other.toList := by
        rw [← h, toList_ofText]
        exact List.mem_flatMap.mpr ⟨c, hc, hoctet⟩
      have hle := le_of_mem_ofChar (Nat.not_lt.mp hcode) hoctet
      have hlt := hascii octet hmem
      omega
    rw [← ofText_of_ascii htext, h]
  · rintro rfl
    exact ofText_of_ascii hascii

theorem ofText_slash : ofText "/" = "/" := ofText_of_ascii (by simp)

theorem ofText_joined (text other : String) :
    ofText (text ++ "/" ++ other) = ofText text ++ "/" ++ ofText other := by
  rw [ofText_append, ofText_append, ofText_slash]

theorem ofText_ne_empty (h : text ≠ "") : ofText text ≠ "" := by
  rwa [ne_eq, ofText_eq_iff (by simp)]

end Octets

end Runbook
