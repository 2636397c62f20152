import Runbook.Json.Basic

/-! # Induction on data trees

* **`Json.treeInduction`** — what holds of a sequence when it holds of its items, and of a mapping
  when it holds of its members, holds of every tree.
* **`Json.strings`** — the strings of a tree, in the order in which it lists them. -/

namespace Runbook

namespace Json

/-- **Induction on trees**, with one hypothesis for all items or members at once. -/
@[induction_eliminator, elab_as_elim]
theorem treeInduction {motive : Json → Prop} (null : motive .null)
    (bool : ∀ value, motive (.bool value)) (number : ∀ value, motive (.number value))
    (string : ∀ value, motive (.string value))
    (array : ∀ items, (∀ item ∈ items, motive item) → motive (.array items))
    (object : ∀ fields : Fields, (∀ field ∈ fields, motive field.2) → motive (.object fields)) :
    ∀ tree, motive tree := by
  intro tree
  refine Json.rec (motive_1 := motive) (motive_2 := fun items => ∀ item ∈ items, motive item)
    (motive_3 := fun fields => ∀ field ∈ fields, motive field.2)
    (motive_4 := fun field => motive field.2)
    null bool number string array object ?_ ?_ ?_ ?_ ?_ tree
  · exact fun item h => absurd h List.not_mem_nil
  · exact fun item rest hitem hrest => List.forall_mem_cons.mpr ⟨hitem, hrest⟩
  · exact fun field h => absurd h List.not_mem_nil
  · exact fun field rest hfield hrest => List.forall_mem_cons.mpr ⟨hfield, hrest⟩
  · exact fun key value h => h

mutual

/-- The strings of a tree, in order. Keys of mappings are not among them. -/
def strings : Json → List String
  | .string text => [text]
  | .array items => stringsItems items
  | .object fields => stringsFields fields
  | .null | .bool _ | .number _ => []

/-- The strings of items. -/
def stringsItems : List Json → List String
  | [] => []
  | item :: rest => strings item ++ stringsItems rest

/-- The strings of the values of members. -/
def stringsFields : List (String × Json) → List String
  | [] => []
  | field :: rest => strings field.2 ++ stringsFields rest

end

/-- The strings of an item are strings of the sequence. -/
theorem strings_subset_stringsItems {item : Json} {items : List Json} (h : item ∈ items) :
    strings item ⊆ stringsItems items := by
  induction items with
  | nil => exact absurd h List.not_mem_nil
  | cons first rest ih =>
    rw [stringsItems]
    rcases List.mem_cons.mp h with rfl | h
    · exact List.subset_append_left _ _
    · exact List.subset_append_of_subset_right _ (ih h)

/-- The strings of the value of a member are strings of the mapping. -/
theorem strings_subset_stringsFields {field : String × Json} {fields : List (String × Json)}
    (h : field ∈ fields) : strings field.2 ⊆ stringsFields fields := by
  induction fields with
  | nil => exact absurd h List.not_mem_nil
  | cons first rest ih =>
    rw [stringsFields]
    rcases List.mem_cons.mp h with rfl | h
    · exact List.subset_append_left _ _
    · exact List.subset_append_of_subset_right _ (ih h)

end Json

end Runbook
