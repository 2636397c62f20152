import Runbook.Proofs.Json.Fields
import Runbook.Proofs.Traversal
import Runbook.Tree

/-! # Data trees among document trees

A data tree is written as a document tree and found again in it, and whatever is found in a document
tree has its members in order.

* **`Json.Ordered`** — a data tree in which the members of every mapping stand in order.
* **`Tree.json?_ofJson`** — such a tree is found again in its document tree.
* **`Tree.ordered_of_json?`** — no other tree is found in a document tree. -/

namespace Runbook

/-- **A data tree in which every mapping lists its members in increasing order of their keys.** -/
inductive Json.Ordered : Json → Prop
  | null : Ordered .null
  | bool (value : Bool) : Ordered (.bool value)
  | number (value : Number) : Ordered (.number value)
  | string (value : String) : Ordered (.string value)
  | array {items : List Json} (hitems : ∀ item ∈ items, Ordered item) : Ordered (.array items)
  | object {fields : Fields} (hkeys : fields.Ordered) (hfields : ∀ field ∈ fields, Ordered field.2) :
    Ordered (.object fields)

namespace Tree

/-! ## From data trees to document trees -/

theorem jsonItems?_ofItems {items : List Json}
    (h : ∀ item ∈ items, (ofJson item).json? = some item) :
    jsonItems? (ofItems items) = some items := by
  induction items with
  | nil => rfl
  | cons item rest ih =>
    obtain ⟨hitem, hrest⟩ := List.forall_mem_cons.mp h
    rw [ofItems, jsonItems?, hitem, ih hrest]

theorem jsonMembers?_ofFields {fields : Fields}
    (h : ∀ field ∈ fields, (ofJson field.2).json? = some field.2) :
    jsonMembers? (ofFields fields) = some fields := by
  induction fields with
  | nil => rfl
  | cons field rest ih =>
    obtain ⟨hfield, hrest⟩ := List.forall_mem_cons.mp h
    rw [ofFields, jsonMembers?, hfield, ih hrest]

/-- **A data tree is found again in its document tree.** -/
theorem json?_ofJson {value : Json} (h : value.Ordered) : (ofJson value).json? = some value := by
  induction h with
  | null | bool _ | number _ | string _ => rfl
  | array _ ih => rw [ofJson, json?, jsonItems?_ofItems ih, Option.map_some]
  | object hkeys _ ih =>
    rw [ofJson, json?, jsonMembers?_ofFields ih, Option.map_some, Fields.ofList_eq_self hkeys]

/-! ## From document trees to data trees -/

mutual

/-- **What a document tree stands for has its members in order**, in whatever order they are
written. -/
theorem ordered_of_json? : ∀ {tree : Tree} {value : Json}, tree.json? = some value → value.Ordered
  | .null, _, h | .notFinite, _, h => by
    cases h
    exact .null
  | .bool _, _, h => by
    cases h
    exact .bool _
  | .number _, _, h => by
    cases h
    exact .number _
  | .string _, _, h => by
    cases h
    exact .string _
  | .sequence items, _, h => by
    rw [json?, Option.map_eq_some_iff] at h
    obtain ⟨values, hvalues, rfl⟩ := h
    exact .array (ordered_of_jsonItems? hvalues)
  | .mapping members, _, h => by
    rw [json?, Option.map_eq_some_iff] at h
    obtain ⟨fields, hfields, rfl⟩ := h
    refine .object (Fields.ordered_ofList fields) fun field hfield => ?_
    rcases Fields.mem_of_mem_update hfield with hnil | hmem
    · exact absurd hnil List.not_mem_nil
    · exact ordered_of_jsonMembers? hfields field hmem

theorem ordered_of_jsonItems? : ∀ {items : List Tree} {values : List Json},
    jsonItems? items = some values → ∀ value ∈ values, value.Ordered
  | [], _, h => by
    cases h
    exact fun value hvalue => absurd hvalue List.not_mem_nil
  | item :: rest, _, h => by
    rw [jsonItems?] at h
    split at h
    · rename_i value values hvalue hvalues
      cases h
      exact List.forall_mem_cons.mpr ⟨ordered_of_json? hvalue, ordered_of_jsonItems? hvalues⟩
    · cases h

theorem ordered_of_jsonMembers? : ∀ {members : List (Tree × Tree)} {fields : Fields},
    jsonMembers? members = some fields → ∀ field ∈ fields, field.2.Ordered
  | [], _, h => by
    cases h
    exact fun field hfield => absurd hfield List.not_mem_nil
  | (key, item) :: rest, _, h => by
    cases key with
    | string key =>
      rw [jsonMembers?] at h
      split at h
      · rename_i value fields hvalue hfields
        cases h
        exact List.forall_mem_cons.mpr ⟨ordered_of_json? hvalue, ordered_of_jsonMembers? hfields⟩
      · cases h
    | null | bool _ | number _ | notFinite | sequence _ | mapping _ => cases h

end

/-! ## Members of mappings -/

/-- The members of a mapping whose keys are texts are found again. -/
theorem members?_record (members : List (String × Tree)) :
    members? (members.map fun (key, value) => (.string key, value)) = some members :=
  mapM_map_eq_some fun _ _ => rfl

/-- Members of data are written as the members of a mapping. -/
theorem record_ofJson (fields : Fields) :
    record (fields.map fun field => (field.1, ofJson field.2)) = .mapping (ofFields fields) := by
  rw [record, List.map_map]
  congr 1
  induction fields with
  | nil => rfl
  | cons field rest ih => rw [List.map_cons, ih, ofFields, Function.comp_apply]

end Tree

end Runbook
