import Mathlib.Data.List.Induction
import Mathlib.Data.List.Nodup
import Runbook.Json.Basic

/-! # Members of mappings

* **`Json.member?`**, **`Json.keys`** — the value that a tree has under a key, and the keys with one.
* **`Fields.Ordered`** — members in increasing order of their keys, so that no key is repeated; it is
  kept by `Fields.insert` and `Fields.update`.
* **`Fields.get?_update`** — an update gives every key the value that it has in the second mapping, if
  it has one there.
* **`Fields.ofList_eq_self`**, **`Fields.ordered_ofList`** — members in order are a mapping as they
  stand, and every mapping that is made from a list has its members in order.
* **`Fields.insert_comm`**, **`Fields.update_comm`**, **`Fields.update_perm`** — insertions and updates
  under different keys may change places. -/

namespace Runbook

/-- The value that a tree has under a key: only mappings have any. Should a key be repeated, its last
value counts, as in `Fields.ofList`. -/
def Json.member? : Json → String → Option Json
  | .object fields, key => fields.reverse.lookup key
  | _, _ => none

/-- The keys of a mapping; no other tree has any. -/
def Json.keys : Json → List String
  | .object fields => Fields.keys fields
  | _ => []

/-- A tree has no value under what is no key of it. -/
theorem Json.member?_eq_none_of_notMem {tree : Json} {key : String} (h : key ∉ tree.keys) :
    tree.member? key = none := by
  cases tree with
  | object fields =>
    rw [member?, List.lookup_eq_none_iff]
    intro field hfield
    have hmem : field.1 ∈ Fields.keys fields := List.mem_map_of_mem (List.mem_reverse.mp hfield)
    exact bne_iff_ne.mpr fun heq => h (heq ▸ hmem)
  | null | bool _ | number _ | string _ | array _ => rfl

namespace Fields

/-- **Members in increasing order of their keys.** -/
def Ordered (fields : Fields) : Prop := (keys fields).Pairwise (· < ·)

instance : DecidablePred Ordered := fun fields =>
  inferInstanceAs (Decidable ((keys fields).Pairwise (· < ·)))

@[simp] theorem keys_cons (key : String) (value : Json) (rest : Fields) :
    keys ((key, value) :: rest) = key :: keys rest := rfl

/-- The keys are those that have a value. -/
theorem mem_keys_iff {fields : Fields} {key : String} :
    key ∈ keys fields ↔ ∃ value, get? fields key = some value := by
  rw [← Option.isSome_iff_exists, get?, List.lookup_isSome_iff, keys, List.mem_map]
  simp only [beq_iff_eq]
  exact exists_congr fun field => and_congr_right fun _ => eq_comm

/-- The last value of a key in members that begin with one more. -/
theorem lookup_reverse_cons (k : String) (v : Json) (rest : Fields) (key : String) :
    List.lookup key ((k, v) :: rest).reverse =
      (List.lookup key rest.reverse).or (if key = k then some v else none) := by
  rw [List.reverse_cons, List.lookup_append]
  congr 1
  exact get?_cons k key v []

/-- **Where no key is repeated, the value under a key is its only one.** -/
theorem member?_object {fields : Fields} (h : (keys fields).Nodup) (key : String) :
    (Json.object fields).member? key = get? fields key := by
  rw [Json.member?]
  induction fields with
  | nil => rfl
  | cons field rest ih =>
    obtain ⟨k, v⟩ := field
    obtain ⟨hfirst, hrest⟩ := List.nodup_cons.mp h
    rw [lookup_reverse_cons, ih hrest, get?_cons]
    by_cases hkey : key = k
    · have hnone : get? rest key = none := by
        rw [Option.eq_none_iff_forall_ne_some]
        intro value hvalue
        exact hfirst (hkey ▸ mem_keys_iff.mpr ⟨value, hvalue⟩)
      rw [hnone, Option.none_or]
    · rw [if_neg hkey, if_neg hkey, Option.or_none]

/-- **An update gives every key its value in the second mapping**, if it has one there. -/
theorem get?_update (fields more : Fields) (key : String) :
    get? (update fields more) key = ((Json.object more).member? key).or (get? fields key) := by
  rw [Json.member?]
  induction more generalizing fields with
  | nil => rfl
  | cons field more ih =>
    obtain ⟨k, v⟩ := field
    have hstep : update fields ((k, v) :: more) = update (insert fields k v) more := rfl
    rw [hstep, ih, get?_insert, lookup_reverse_cons, Option.or_assoc]
    by_cases hkey : key = k
    · rw [if_pos hkey, if_pos hkey, Option.some_or]
    · rw [if_neg hkey, if_neg hkey, Option.none_or]

/-- The keys behind an insertion are the new key and those from before. -/
theorem mem_keys_insert {fields : Fields} {key k : String} {value : Json} :
    k ∈ keys (insert fields key value) ↔ k = key ∨ k ∈ keys fields := by
  simp only [mem_keys_iff, get?_insert]
  by_cases hk : k = key
  · simp [hk]
  · simp [hk]

/-- **An insertion keeps the order.** -/
theorem Ordered.insert {fields : Fields} (h : fields.Ordered) (key : String) (value : Json) :
    (insert fields key value).Ordered := by
  induction fields with
  | nil => exact List.pairwise_singleton _ _
  | cons field rest ih =>
    obtain ⟨k, v⟩ := field
    obtain ⟨hfirst, hrest⟩ := List.pairwise_cons.mp h
    rw [Fields.insert]
    split
    · rename_i heq
      subst heq
      exact h
    · rename_i hne
      split
      · rename_i hlt
        refine List.pairwise_cons.mpr ⟨fun other hother => ?_, h⟩
        rcases List.mem_cons.mp hother with rfl | hother
        · exact hlt
        · exact String.lt_trans hlt (hfirst other hother)
      · rename_i hlt
        have hafter : k < key := Std.lt_of_le_of_ne hlt fun heq => hne heq.symm
        refine List.pairwise_cons.mpr ⟨fun other hother => ?_, ih hrest⟩
        rcases mem_keys_insert.mp hother with rfl | hother
        · exact hafter
        · exact hfirst other hother

/-- **An update keeps the order.** -/
theorem Ordered.update {fields : Fields} (h : fields.Ordered) (more : Fields) :
    (update fields more).Ordered := by
  induction more generalizing fields with
  | nil => exact h
  | cons field more ih => exact ih (h.insert field.1 field.2)

/-! ## Members of a list -/

/-- An insertion brings no other member than the inserted one. -/
theorem mem_of_mem_insert {fields : Fields} {key : String} {value : Json} {field : String × Json}
    (h : field ∈ insert fields key value) : field = (key, value) ∨ field ∈ fields := by
  induction fields with
  | nil => exact Or.inl (List.mem_singleton.mp h)
  | cons first rest ih =>
    obtain ⟨k, v⟩ := first
    rw [insert] at h
    split at h
    · exact (List.mem_cons.mp h).imp_right (List.mem_cons_of_mem _)
    · split at h
      · exact List.mem_cons.mp h
      · rcases List.mem_cons.mp h with rfl | hrest
        · exact Or.inr List.mem_cons_self
        · exact (ih hrest).imp_right (List.mem_cons_of_mem _)

/-- What is sought among the members is found just as well after the insertion of a new key, unless it
is found there. -/
theorem findSome?_insert {α : Type*} {seek : String × Json → Option α} {fields : Fields} {key : String}
    {value : Json} (hkey : key ∉ keys fields) (hseek : seek (key, value) = none) :
    List.findSome? seek (insert fields key value) = List.findSome? seek fields := by
  induction fields with
  | nil => rw [insert, List.findSome?_cons, hseek]
  | cons field rest ih =>
    obtain ⟨k, v⟩ := field
    rw [keys_cons, List.mem_cons, not_or] at hkey
    obtain ⟨hne, hrest⟩ := hkey
    rw [insert, if_neg hne]
    by_cases hlt : key < k
    · rw [if_pos hlt, List.findSome?_cons, hseek]
    · rw [if_neg hlt, List.findSome?_cons, List.findSome?_cons, ih hrest]

/-- An update brings no other members than those of the second mapping. -/
theorem mem_of_mem_update {fields more : Fields} {field : String × Json}
    (h : field ∈ update fields more) : field ∈ fields ∨ field ∈ more := by
  induction more generalizing fields with
  | nil => exact Or.inl h
  | cons first more ih =>
    rcases ih h with hinsert | hmore
    · rcases mem_of_mem_insert hinsert with rfl | hfields
      · exact Or.inr List.mem_cons_self
      · exact Or.inl hfields
    · exact Or.inr (List.mem_cons_of_mem _ hmore)

/-- A key behind all others comes last. -/
theorem insert_eq_concat {fields : Fields} {key : String} (h : ∀ k ∈ keys fields, k < key)
    (value : Json) : insert fields key value = fields ++ [(key, value)] := by
  induction fields with
  | nil => rfl
  | cons field rest ih =>
    obtain ⟨k, v⟩ := field
    obtain ⟨hk, hrest⟩ := List.forall_mem_cons.mp h
    have hne : ¬ key = k := fun heq => String.lt_irrefl k (heq ▸ hk)
    rw [insert, if_neg hne, if_neg (String.lt_asymm hk), ih hrest, List.cons_append]

/-- **Members in order are a mapping as they stand.** -/
theorem ofList_eq_self {fields : Fields} (h : fields.Ordered) : ofList fields = fields := by
  induction fields using List.reverseRecOn with
  | nil => rfl
  | append_singleton fields field ih =>
    rw [Ordered, keys, List.map_append, List.pairwise_append] at h
    obtain ⟨hfields, -, hlast⟩ := h
    have hstep : ofList (fields ++ [field]) = insert (ofList fields) field.1 field.2 := by
      rw [ofList, update, List.foldl_append]
      rfl
    rw [hstep, ih hfields]
    exact insert_eq_concat (fun k hk => hlast k hk field.1 List.mem_cons_self) field.2

/-- A mapping that is made from a list has its members in order. -/
theorem ordered_ofList (members : List (String × Json)) : (ofList members).Ordered :=
  Ordered.update (show Ordered [] from List.Pairwise.nil) members

/-! ## Changes of order -/

theorem insert_comm_of_lt {k l : String} (h : k < l) (fields : Fields) (v w : Json) :
    insert (insert fields k v) l w = insert (insert fields l w) k v := by
  have hne : l ≠ k := fun heq => String.lt_irrefl k (heq ▸ h)
  have hnlt : ¬ l < k := String.lt_asymm h
  induction fields with
  | nil => simp [insert, h, hne, hne.symm, hnlt]
  | cons field rest ih =>
    obtain ⟨m, u⟩ := field
    -- the smaller key comes at the first member, in front of it or behind it
    by_cases hkm : k = m
    · subst hkm
      simp [insert, hne, hnlt]
    · by_cases hlt : k < m
      · by_cases hlm : l = m
        · subst hlm
          simp [insert, h, hne, hne.symm, hnlt]
        · by_cases hltm : l < m <;> simp [insert, h, hne, hne.symm, hnlt, hkm, hlt, hlm, hltm]
      · have hmk : m < k := Std.lt_of_le_of_ne hlt fun heq => hkm heq.symm
        have hml : m < l := String.lt_trans hmk h
        have hlm : l ≠ m := fun heq => String.lt_irrefl m (heq ▸ hml)
        have hnlm : ¬ l < m := String.lt_asymm hml
        simp [insert, hkm, hlt, hlm, hnlm, ih]

/-- **Insertions under different keys may change places**, whatever members are there. -/
theorem insert_comm {k l : String} (h : k ≠ l) (fields : Fields) (v w : Json) :
    insert (insert fields k v) l w = insert (insert fields l w) k v := by
  by_cases hlt : k < l
  · exact insert_comm_of_lt hlt fields v w
  · have hgt : l < k := Std.lt_of_le_of_ne hlt h.symm
    exact (insert_comm_of_lt hgt fields w v).symm

/-- An insertion may come before or after an update that leaves its key alone. -/
theorem update_insert_comm {key : String} {more : Fields} (h : key ∉ keys more) (fields : Fields)
    (value : Json) : update (insert fields key value) more = insert (update fields more) key value := by
  induction more generalizing fields with
  | nil => rfl
  | cons field more ih =>
    obtain ⟨k, v⟩ := field
    have hkey : key ≠ k := fun heq => h (heq ▸ List.mem_cons_self)
    have hmore : key ∉ keys more := fun hmem => h (List.mem_cons_of_mem k hmem)
    calc update (insert fields key value) ((k, v) :: more)
        = update (insert (insert fields key value) k v) more := rfl
      _ = update (insert (insert fields k v) key value) more := by rw [insert_comm hkey]
      _ = insert (update fields ((k, v) :: more)) key value := ih hmore (insert fields k v)

/-- **Updates without a key in common may change places.** -/
theorem update_comm {first second : Fields} (h : (keys first).Disjoint (keys second))
    (fields : Fields) :
    update (update fields first) second = update (update fields second) first := by
  induction first generalizing fields with
  | nil => rfl
  | cons field first ih =>
    obtain ⟨k, v⟩ := field
    have hk : k ∉ keys second := fun hmem => h List.mem_cons_self hmem
    have hfirst : (keys first).Disjoint (keys second) := fun key hmem =>
      h (List.mem_cons_of_mem k hmem)
    calc update (update fields ((k, v) :: first)) second
        = update (update (insert fields k v) first) second := rfl
      _ = update (update (insert fields k v) second) first := ih hfirst (insert fields k v)
      _ = update (insert (update fields second) k v) first := by rw [update_insert_comm hk]

/-- **The order of members with different keys makes no difference to an update.** -/
theorem update_perm {first second : Fields} (h : first.Perm second) (hnodup : (keys first).Nodup)
    (fields : Fields) : update fields first = update fields second := by
  refine h.foldl_eq' (fun x hx y hy view => ?_) fields
  by_cases hkey : x.1 = y.1
  · have heq : x = y := List.inj_on_of_nodup_map hnodup hx hy hkey
    rw [heq]
  · exact insert_comm hkey view x.2 y.2

end Fields

end Runbook
