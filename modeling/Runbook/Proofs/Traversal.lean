import Mathlib.Data.List.Forall2
import Mathlib.Data.Option.Basic

/-! # Lists that are read item by item

* **`mapM_eq_some_iff_forall₂`**, **`mapM_eq_none_iff_exists`** — when a list is read, and when not.
* **`map_of_mapM`**, **`exists_of_mem_mapM`**, **`filterMap_of_mapM`**, **`map_eq_of_mapM`** — what is
  read in other words.
* **`mapM_map_eq_some`** — what is written item by item is read again.
* **`exists_forall₂_iff`** — two pointwise relations, one behind the other. -/

namespace Runbook

variable {α β γ : Type} {read : α → Option β} {items : List α} {values : List β}

/-- **A list is read if its items are**, one by one. -/
theorem mapM_eq_some_iff_forall₂ :
    items.mapM read = some values ↔ List.Forall₂ (fun item value => read item = some value) items values := by
  induction items generalizing values with
  | nil => simp [List.mapM_nil, eq_comm]
  | cons item rest ih =>
    rw [List.mapM_cons, List.forall₂_cons_left_iff]
    simp only [Option.bind_eq_bind, Option.bind_eq_some_iff, ih]
    constructor
    · rintro ⟨value, hvalue, others, hothers, hvalues⟩
      cases hvalues
      exact ⟨value, others, hvalue, hothers, rfl⟩
    · rintro ⟨value, others, hvalue, hothers, rfl⟩
      exact ⟨value, hvalue, others, hothers, rfl⟩

/-- **A list is not read if one of its items is not.** -/
theorem mapM_eq_none_iff_exists : items.mapM read = none ↔ ∃ item ∈ items, read item = none := by
  induction items with
  | nil => simp [List.mapM_nil]
  | cons item rest ih =>
    rw [List.mapM_cons, List.exists_mem_cons_iff, ← ih]
    cases read item with
    | none => simp
    | some value => cases rest.mapM read <;> simp

/-- Where every item is accepted, each has its image. -/
theorem map_of_mapM (h : items.mapM read = some values) : items.map read = values.map some := by
  rw [mapM_eq_some_iff_forall₂] at h
  induction h with
  | nil => rfl
  | cons hfirst _ ih => rw [List.map_cons, List.map_cons, hfirst, ih]

/-- What is read is read from an item. -/
theorem exists_of_mem_mapM {value : β} (h : items.mapM read = some values) (hvalue : value ∈ values) :
    ∃ item ∈ items, read item = some value := by
  have hmem : some value ∈ items.map read := by
    rw [map_of_mapM h]
    exact List.mem_map_of_mem hvalue
  exact List.mem_map.mp hmem

/-- Where every item is accepted, the accepted ones are all. -/
theorem filterMap_of_mapM (h : items.mapM read = some values) : items.filterMap read = values := by
  calc items.filterMap read
      = (items.map read).filterMap id := by rw [List.filterMap_map, Function.id_comp]
    _ = (values.map some).filterMap id := by rw [map_of_mapM h]
    _ = values := by rw [List.filterMap_map, Function.id_comp, List.filterMap_some]

/-- Where every item is accepted, any function that agrees on the accepted ones gives them all. -/
theorem map_eq_of_mapM {g : α → β} (h : items.mapM read = some values)
    (hg : ∀ item value, read item = some value → g item = value) : items.map g = values := by
  rw [mapM_eq_some_iff_forall₂] at h
  induction h with
  | nil => rfl
  | cons hfirst _ ih => rw [List.map_cons, hg _ _ hfirst, ih]

/-- Items that are written one by one are read one by one. -/
theorem mapM_map_eq_some {write : β → α} (h : ∀ value ∈ values, read (write value) = some value) :
    (values.map write).mapM read = some values := by
  rw [mapM_eq_some_iff_forall₂, List.forall₂_map_left_iff]
  exact List.forall₂_same.mpr h

/-- Of two pointwise relations, one behind the other, the values in between may be taken one by one. -/
theorem exists_forall₂_iff {R : α → β → Prop} {S : β → γ → Prop} {found : List γ} :
    (∃ values, List.Forall₂ R items values ∧ List.Forall₂ S values found) ↔
      List.Forall₂ (fun item result => ∃ value, R item value ∧ S value result) items found := by
  induction items generalizing found with
  | nil => simp
  | cons item rest ih =>
    simp only [List.forall₂_cons_left_iff, ← ih]
    constructor
    · rintro ⟨_, ⟨value, values, hitem, hrest, rfl⟩, hfound⟩
      obtain ⟨result, others, hresult, hothers, rfl⟩ := List.forall₂_cons_left_iff.mp hfound
      exact ⟨result, others, ⟨value, hitem, hresult⟩, ⟨values, hrest, hothers⟩, rfl⟩
    · rintro ⟨result, others, ⟨value, hitem, hresult⟩, ⟨values, hrest, hothers⟩, rfl⟩
      exact ⟨value :: values, ⟨value, values, hitem, hrest, rfl⟩, .cons hresult hothers⟩

end Runbook
