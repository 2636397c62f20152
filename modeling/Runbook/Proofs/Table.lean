import Mathlib.Data.List.Induction
import Mathlib.Data.List.Nodup
import Runbook.Table

/-! # Histories of tables

A table that insertions have made one after another is told here by the list of these insertions.

* **`Table.insertAll`** — the table after a list of insertions.
* **`Table.valuesUnder`** — the values that a list of entries gives to a key, in order.
* **`Table.settled`** — each key once, in order of its first entry, with its last value;
  `entries_ofList` says that these are the entries of a table made from a list.
* **`Table.get?_insertAll`**, **`Table.keys_insertAll`** — values and keys behind insertions.
* **`Table.insertAll_entries_ofList`** — repeated keys may be settled before the insertions are made.
* **`Table.settled_of_nodup`**, **`Table.settled_map`** — where settling changes nothing, and images of
  values.
* **`Table.ofList_entries`** — a table is made again from its own entries. -/

namespace Runbook

section

variable {α : Type*} [BEq α] [LawfulBEq α]

/-- A list without its later repetitions, when one more item comes. -/
theorem eraseDups_concat (items : List α) (item : α) :
    (items ++ [item]).eraseDups =
      if item ∈ items.eraseDups then items.eraseDups else items.eraseDups ++ [item] := by
  rw [List.eraseDups_append]
  by_cases h : item ∈ items
  · rw [if_pos (List.mem_eraseDups.mpr h)]
    simp [List.removeAll, h]
  · rw [if_neg fun hmem => h (List.mem_eraseDups.mp hmem)]
    simp [List.removeAll, h, List.eraseDups_cons]

/-- Nothing is erased where nothing is repeated. -/
theorem eraseDups_of_nodup {items : List α} (h : items.Nodup) : items.eraseDups = items := by
  induction items using List.reverseRecOn with
  | nil => rfl
  | append_singleton items item ih =>
    obtain ⟨hitems, -, hdisjoint⟩ := List.nodup_append.mp h
    have hnew : item ∉ items := fun hmem => hdisjoint item hmem item List.mem_cons_self rfl
    rw [eraseDups_concat, ih hitems, if_neg hnew]

/-- Repetitions at the end of a list may be erased first. -/
theorem eraseDups_append_eraseDups (front items : List α) :
    (front ++ items.eraseDups).eraseDups = (front ++ items).eraseDups := by
  induction items using List.reverseRecOn with
  | nil => rfl
  | append_singleton items item ih =>
    rw [← List.append_assoc, eraseDups_concat (front ++ items), eraseDups_concat items]
    by_cases h : item ∈ items.eraseDups
    · have hall : item ∈ (front ++ items).eraseDups :=
        List.mem_eraseDups.mpr (List.mem_append_right front (List.mem_eraseDups.mp h))
      rw [if_pos h, if_pos hall, ih]
    · rw [if_neg h, ← List.append_assoc, eraseDups_concat, ih]

end

namespace Table

variable {α β : Type*}

/-- The table after entries have been inserted, one after another. -/
def insertAll (table : Table α) (entries : List (String × α)) : Table α :=
  entries.foldl (fun table entry => table.insert entry.1 entry.2) table

/-- **The values that entries give to a key**, in order. -/
def valuesUnder (entries : List (String × α)) (key : String) : List α :=
  (entries.filter fun entry => entry.1 = key).map Prod.snd

/-- **Entries of which only the last of each key counts**, in order of the first ones. -/
def settled (entries : List (String × α)) : List (String × α) :=
  (entries.map Prod.fst).eraseDups.filterMap fun key =>
    (valuesUnder entries key).getLast?.map fun value => (key, value)

theorem insertAll_concat (table : Table α) (entries : List (String × α)) (key : String) (value : α) :
    table.insertAll (entries ++ [(key, value)]) = (table.insertAll entries).insert key value := by
  rw [insertAll, List.foldl_append]
  rfl

theorem getLast?_valuesUnder_concat (entries : List (String × α)) (k key : String) (value : α) :
    (valuesUnder (entries ++ [(k, value)]) key).getLast? =
      if key = k then some value else (valuesUnder entries key).getLast? := by
  rw [valuesUnder, List.filter_append, List.map_append]
  by_cases h : key = k
  · subst h
    simp
  · have hk : ¬ k = key := fun heq => h heq.symm
    simp [h, hk, valuesUnder]

/-- A key has a last value if an entry has that key. -/
theorem isSome_getLast?_valuesUnder {entries : List (String × α)} {key : String} :
    (valuesUnder entries key).getLast?.isSome ↔ key ∈ entries.map Prod.fst := by
  rw [valuesUnder, List.getLast?_isSome, ne_eq, List.map_eq_nil_iff, List.filter_eq_nil_iff]
  simp only [decide_eq_true_eq, not_forall, not_not, List.mem_map, exists_prop]

/-- **Behind insertions, a key has the last value that they gave it**, or else its value from before. -/
theorem get?_insertAll (table : Table α) (entries : List (String × α)) (key : String) :
    (table.insertAll entries).get? key =
      (valuesUnder entries key).getLast?.or (table.get? key) := by
  induction entries using List.reverseRecOn with
  | nil => rfl
  | append_singleton entries entry ih =>
    obtain ⟨k, value⟩ := entry
    rw [insertAll_concat, get?_insert, getLast?_valuesUnder_concat, ih]
    by_cases h : key = k
    · rw [if_pos h, if_pos h, Option.some_or]
    · rw [if_neg h, if_neg h]

/-- **Behind insertions, the keys stand in order of their first insertion.** -/
theorem keys_insertAll (table : Table α) (entries : List (String × α)) :
    (table.insertAll entries).keys = (table.keys ++ entries.map Prod.fst).eraseDups := by
  induction entries using List.reverseRecOn with
  | nil =>
    rw [List.map_nil, List.append_nil]
    exact (eraseDups_of_nodup table.nodup).symm
  | append_singleton entries entry ih =>
    obtain ⟨k, value⟩ := entry
    rw [insertAll_concat, keys_insert, List.map_append, ← List.append_assoc]
    rw [List.map_singleton, eraseDups_concat, ← ih]

/-- Where no key is repeated, entries give no key more than one value. -/
theorem valuesUnder_of_nodup {entries : List (String × α)} (h : (entries.map Prod.fst).Nodup)
    (key : String) : valuesUnder entries key = (entries.lookup key).toList := by
  induction entries with
  | nil => rfl
  | cons entry rest ih =>
    obtain ⟨k, value⟩ := entry
    obtain ⟨hfirst, hrest⟩ := List.nodup_cons.mp h
    have hrest := ih hrest
    rw [valuesUnder] at hrest ⊢
    by_cases hk : key = k
    · subst hk
      have hnone : rest.lookup key = none := by
        rw [List.lookup_eq_none_iff]
        intro entry hentry
        have hmem : entry.1 ∈ rest.map Prod.fst := List.mem_map_of_mem hentry
        exact bne_iff_ne.mpr fun heq => hfirst (heq ▸ hmem)
      rw [hnone, Option.toList_none, List.map_eq_nil_iff] at hrest
      rw [List.filter_cons_of_pos (by simp), hrest, List.lookup_cons, beq_self_eq_true]
      rfl
    · have hne : ¬ k = key := fun heq => hk heq.symm
      rw [List.filter_cons_of_neg (by simp [hne]), hrest, List.lookup_cons, beq_false_of_ne hk]

/-- The value of an entry is the value of its key. -/
theorem get?_of_mem_entries {table : Table α} {entry : String × α} (h : entry ∈ table.entries) :
    table.get? entry.1 = some entry.2 := by
  have hmem : entry.2 ∈ valuesUnder table.entries entry.1 :=
    List.mem_map_of_mem (List.mem_filter.mpr ⟨h, decide_eq_true rfl⟩)
  rw [valuesUnder_of_nodup table.nodup] at hmem
  exact Option.mem_toList.mp hmem

/-- A value of a key is the value of an entry. -/
theorem mem_entries_of_get? {table : Table α} {key : String} {value : α}
    (h : table.get? key = some value) : (key, value) ∈ table.entries := by
  obtain ⟨front, back, hentries, -⟩ := List.lookup_eq_some_iff.mp h
  rw [hentries]
  exact List.mem_append_right front List.mem_cons_self

/-- An insertion brings no other entry than the inserted one. -/
theorem eq_or_mem_of_mem_insert {table : Table α} {key : String} {value : α} {entry : String × α}
    (h : entry ∈ (table.insert key value).entries) :
    entry = (key, value) ∨ entry ∈ table.entries := by
  have hget := get?_of_mem_entries h
  rw [get?_insert] at hget
  split at hget
  · rename_i hkey
    exact Or.inl (Prod.ext hkey (Option.some.inj hget).symm)
  · exact Or.inr (mem_entries_of_get? hget)

/-- Behind an insertion there is an entry. -/
theorem entries_insert_ne_nil (table : Table α) (key : String) (value : α) :
    (table.insert key value).entries ≠ [] := by
  have hget : (table.insert key value).get? key = some value := by
    rw [get?_insert, if_pos rfl]
  exact List.ne_nil_of_mem (mem_entries_of_get? hget)

/-- The entries in terms of keys and values. -/
theorem entries_eq (table : Table α) :
    table.entries =
      table.keys.filterMap fun key => (table.get? key).map fun value => (key, value) := by
  rw [keys, List.filterMap_map]
  calc table.entries
      = table.entries.filterMap some := List.filterMap_some.symm
    _ = _ := List.filterMap_congr fun entry hentry => by
        rw [Function.comp_apply, get?_of_mem_entries hentry, Option.map_some]

/-- **Tables with the same keys in the same order and the same values are the same.** -/
theorem ext_get? {s t : Table α} (hkeys : s.keys = t.keys) (hget : ∀ key, s.get? key = t.get? key) :
    s = t := by
  apply ext
  rw [entries_eq s, entries_eq t, hkeys]
  simp only [hget]

theorem get?_ofList (entries : List (String × α)) (key : String) :
    (ofList entries).get? key = (valuesUnder entries key).getLast? := by
  have h := get?_insertAll empty entries key
  rwa [get?_empty, Option.or_none] at h

theorem keys_ofList (entries : List (String × α)) :
    (ofList entries).keys = (entries.map Prod.fst).eraseDups :=
  keys_insertAll empty entries

/-- **A table made from a list settles its repeated keys.** -/
theorem entries_ofList (entries : List (String × α)) : (ofList entries).entries = settled entries := by
  rw [entries_eq, keys_ofList, settled]
  simp only [get?_ofList]

/-- A key has no other value in the entries of a table than its own. -/
theorem getLast?_valuesUnder_entries (table : Table α) (key : String) :
    (valuesUnder table.entries key).getLast? = table.get? key := by
  rw [valuesUnder_of_nodup table.nodup, get?]
  cases table.entries.lookup key <;> rfl

/-- **Repeated keys may be settled before the insertions are made.** -/
theorem insertAll_entries_ofList (table : Table α) (entries : List (String × α)) :
    table.insertAll (ofList entries).entries = table.insertAll entries := by
  apply ext_get?
  · rw [keys_insertAll, keys_insertAll, ← eraseDups_append_eraseDups _ (entries.map Prod.fst),
      ← keys_ofList]
    rfl
  · intro key
    rw [get?_insertAll, get?_insertAll, getLast?_valuesUnder_entries, get?_ofList]

/-- Of two insertions under one key the second counts. -/
theorem insert_insert (table : Table α) (key : String) (first second : α) :
    (table.insert key first).insert key second = table.insert key second := by
  apply ext_get?
  · have hmem : key ∈ (table.insert key first).keys := by
      rw [keys_insert]
      by_cases h : key ∈ table.keys <;> simp [h]
    rw [keys_insert, if_pos hmem, keys_insert, keys_insert]
  · intro k
    rw [get?_insert, get?_insert, get?_insert]
    by_cases h : k = key
    · rw [if_pos h, if_pos h]
    · rw [if_neg h, if_neg h, if_neg h]

/-- Settling keeps each key once. -/
theorem map_fst_settled (entries : List (String × α)) :
    (settled entries).map Prod.fst = (entries.map Prod.fst).eraseDups := by
  rw [← entries_ofList, ← keys_ofList, keys]

/-- Entries without a repeated key are settled. -/
theorem settled_of_nodup {entries : List (String × α)} (h : (entries.map Prod.fst).Nodup) :
    settled entries = entries := by
  have hlist : ofList entries = ⟨entries, h⟩ := by
    apply ext_get?
    · rw [keys_ofList]
      exact eraseDups_of_nodup h
    · intro key
      rw [get?_ofList]
      exact getLast?_valuesUnder_entries ⟨entries, h⟩ key
  rw [← entries_ofList, hlist]

/-- Settling brings no new entries. -/
theorem mem_of_mem_settled {entries : List (String × α)} {entry : String × α}
    (h : entry ∈ settled entries) : entry ∈ entries := by
  obtain ⟨key, -, hlast⟩ := List.mem_filterMap.mp h
  obtain ⟨value, hvalue, rfl⟩ := Option.map_eq_some_iff.mp hlast
  obtain ⟨found, hfound, rfl⟩ := List.mem_map.mp (List.mem_of_getLast? hvalue)
  obtain ⟨hmem, hkey⟩ := List.mem_filter.mp hfound
  rwa [← of_decide_eq_true hkey]

/-- **A table is made again from its own entries.** -/
theorem ofList_entries (table : Table α) : ofList table.entries = table := by
  apply ext
  rw [entries_ofList, settled_of_nodup table.nodup]

/-- Entries may be settled before their values are replaced by images. -/
theorem settled_map (f : α → β) (entries : List (String × α)) :
    settled (entries.map fun entry => (entry.1, f entry.2)) =
      (settled entries).map fun entry => (entry.1, f entry.2) := by
  have hvalues : ∀ key, valuesUnder (entries.map fun entry => (entry.1, f entry.2)) key =
      (valuesUnder entries key).map f := by
    intro key
    rw [valuesUnder, valuesUnder, List.filter_map, List.map_map, List.map_map]
    rfl
  rw [settled, settled, List.map_map, List.map_filterMap]
  simp only [hvalues, List.getLast?_map, Option.map_map]
  rfl

end Table

end Runbook
