import Mathlib.Data.List.Forall2
import Runbook.Proofs.Json.Fields
import Runbook.Proofs.Resolution.Agreement
import Runbook.Proofs.Resolution.Texts

/-! # Resolution keeps the shape of a tree

Only the strings of a tree are replaced, each by its own value. Sequences keep their items in number
and order, mappings their keys, and all else stays as it is.

* **`Resolution.Resolved`** — a tree of the same shape in which each string is replaced by its value.
* **`Resolution.value_eq_ok_iff`** — the value of a tree is such a tree, and every such tree is its
  value.
* **`Resolution.value_select?`** — what a path selects is resolved at its own place.
* **`Resolution.resolved_self`** — a tree without placeholders and escapes stays the same.
* **`Resolution.value_keeps_shape`** — these together. -/

namespace Runbook.Resolution

/-- **A tree of the same shape in which each string is replaced by its value**: sequences agree item by
item and mappings key by key, and what is neither of these nor a string is the same. -/
inductive Resolved (sources : Sources) : Json → Json → Prop
  | null : Resolved sources .null .null
  | bool (value : Bool) : Resolved sources (.bool value) (.bool value)
  | number (value : Number) : Resolved sources (.number value) (.number value)
  | string {text : String} {result : Json} (h : string sources text.toList = .ok result) :
    Resolved sources (.string text) result
  | array {items results : List Json} (hitems : List.Forall₂ (Resolved sources) items results) :
    Resolved sources (.array items) (.array results)
  | object {fields results : Fields} (hkeys : results.keys = fields.keys)
    (hvalues : List.Forall₂ (Resolved sources) (fields.map Prod.snd) (results.map Prod.snd)) :
    Resolved sources (.object fields) (.object results)

variable {sources : Sources}

/-! ## The value of a tree -/

/-- Items have values if each of them has its own. -/
theorem valueItems_eq_ok_iff {related : Json → Json → Prop} {items results : List Json}
    (h : ∀ item ∈ items, ∀ result, value sources item = .ok result ↔ related item result) :
    valueItems sources items = .ok results ↔ List.Forall₂ related items results := by
  induction items generalizing results with
  | nil => simp [valueItems, eq_comm]
  | cons item rest ih =>
    obtain ⟨hitem, hrest⟩ := List.forall_mem_cons.mp h
    rw [List.forall₂_cons_left_iff, valueItems]
    cases hvalue : value sources item with
    | error e =>
      -- An item without a value is related to nothing.
      refine iff_of_false (by simp) ?_
      rintro ⟨result, others, hrelated, -, -⟩
      rw [(hitem result).mpr hrelated] at hvalue
      cases hvalue
    | ok result =>
      rw [map_eq_ok_iff]
      constructor
      · rintro ⟨others, hothers, rfl⟩
        exact ⟨result, others, (hitem result).mp hvalue, (ih hrest).mp hothers, rfl⟩
      · rintro ⟨result', others, hrelated, hothers, rfl⟩
        have hsame := hvalue.symm.trans ((hitem result').mpr hrelated)
        exact ⟨others, (ih hrest).mpr hothers, by rw [Except.ok.inj hsame]⟩

/-- The values of members are those of items, under the same keys. -/
theorem valueFields_eq_ok_iff {fields results : Fields} :
    valueFields sources fields = .ok results ↔
      results.keys = fields.keys ∧
        valueItems sources (fields.map Prod.snd) = .ok (results.map Prod.snd) := by
  induction fields generalizing results with
  | nil => cases results <;> simp [valueFields, valueItems, Fields.keys]
  | cons field rest ih =>
    obtain ⟨key, member⟩ := field
    rw [valueFields, List.map_cons, valueItems]
    cases value sources member with
    | error e => simp
    | ok result =>
      rw [map_eq_ok_iff, map_eq_ok_iff]
      constructor
      · rintro ⟨others, hothers, rfl⟩
        obtain ⟨hkeys, hvalues⟩ := ih.mp hothers
        exact ⟨congrArg (key :: ·) hkeys, _, hvalues, rfl⟩
      · rintro ⟨hkeys, others, hothers, hresults⟩
        cases results with
        | nil => cases hkeys
        | cons first results =>
          obtain ⟨k, v⟩ := first
          rw [Fields.keys_cons, Fields.keys_cons, List.cons.injEq] at hkeys
          rw [List.map_cons, List.cons.injEq] at hresults
          obtain ⟨rfl, hkeys⟩ := hkeys
          obtain ⟨rfl, rfl⟩ := hresults
          exact ⟨results, ih.mpr ⟨hkeys, hothers⟩, rfl⟩

/-- **The value of a tree is the tree of the same shape with the values of its strings.** -/
theorem value_eq_ok_iff {tree result : Json} :
    value sources tree = .ok result ↔ Resolved sources tree result := by
  -- On the tree. Members are taken as items under their keys, so that both containers use the same
  -- law for lists.
  induction tree generalizing result with
  | null =>
    rw [value]
    exact ⟨fun h => by cases h; exact .null, fun h => by cases h; rfl⟩
  | bool truth =>
    rw [value]
    exact ⟨fun h => by cases h; exact .bool truth, fun h => by cases h; rfl⟩
  | number number =>
    rw [value]
    exact ⟨fun h => by cases h; exact .number number, fun h => by cases h; rfl⟩
  | string text =>
    rw [value]
    exact ⟨.string, fun h => by cases h with | string h => exact h⟩
  | array items ih =>
    have hitems (results : List Json) : valueItems sources items = .ok results ↔
        List.Forall₂ (Resolved sources) items results :=
      valueItems_eq_ok_iff fun item hitem result => ih item hitem
    rw [value, map_eq_ok_iff]
    constructor
    · rintro ⟨results, hresults, rfl⟩
      exact .array ((hitems results).mp hresults)
    · intro h
      cases h with
      | @array _ results hresults => exact ⟨results, (hitems results).mpr hresults, rfl⟩
  | object fields ih =>
    have hmembers (results : List Json) : valueItems sources (fields.map Prod.snd) = .ok results ↔
        List.Forall₂ (Resolved sources) (fields.map Prod.snd) results :=
      valueItems_eq_ok_iff (List.forall_mem_map.mpr fun field hfield result => ih field hfield)
    rw [value, map_eq_ok_iff]
    constructor
    · rintro ⟨results, hresults, rfl⟩
      obtain ⟨hkeys, hvalues⟩ := valueFields_eq_ok_iff.mp hresults
      exact .object hkeys ((hmembers _).mp hvalues)
    · intro h
      cases h with
      | @object _ results hkeys hvalues =>
        exact ⟨results, valueFields_eq_ok_iff.mpr ⟨hkeys, (hmembers _).mpr hvalues⟩, rfl⟩

/-! ## Places in a tree -/

/-- Items that agree one by one agree at every position. -/
theorem exists_getElem?_of_forall₂ {related : Json → Json → Prop} {items results : List Json}
    (h : List.Forall₂ related items results) {position : Nat} {item : Json}
    (hitem : items[position]? = some item) :
    ∃ result, results[position]? = some result ∧ related item result := by
  induction h generalizing position with
  | nil => simp at hitem
  | @cons first result _ _ hfirst _ ih =>
    cases position with
    | zero =>
      cases hitem
      exact ⟨result, rfl, hfirst⟩
    | succ position => exact ih hitem

/-- Members that agree one by one agree under every key. -/
theorem exists_get?_of_forall₂ {related : Json → Json → Prop} {fields results : Fields}
    (hkeys : results.keys = fields.keys)
    (h : List.Forall₂ related (fields.map Prod.snd) (results.map Prod.snd)) {key : String}
    {member : Json} (hmember : fields.get? key = some member) :
    ∃ result, results.get? key = some result ∧ related member result := by
  induction fields generalizing results with
  | nil => cases hmember
  | cons field rest ih =>
    obtain ⟨k, v⟩ := field
    cases results with
    | nil => cases hkeys
    | cons first results =>
      obtain ⟨l, w⟩ := first
      rw [Fields.keys_cons, Fields.keys_cons, List.cons.injEq] at hkeys
      obtain ⟨rfl, hkeys⟩ := hkeys
      obtain ⟨hvalue, hvalues⟩ := List.forall₂_cons.mp h
      rw [Fields.get?_cons] at hmember ⊢
      split at hmember
      · rename_i hkey
        cases hmember
        exact ⟨w, if_pos hkey, hvalue⟩
      · rename_i hkey
        rw [if_neg hkey]
        exact ih hkeys hvalues hmember

/-- **What a path selects in a tree is resolved at its own place.** -/
theorem Resolved.select? {tree result part : Json} {path : List String}
    (h : Resolved sources tree result) (hpart : tree.select? path = some part) :
    ∃ found, result.select? path = some found ∧ Resolved sources part found := by
  induction path generalizing tree result with
  | nil =>
    cases hpart
    exact ⟨result, rfl, h⟩
  | cons segment rest ih =>
    cases h with
    | null | bool _ | number _ | string _ => cases hpart
    | @array items results hitems =>
      simp only [Json.select?] at hpart ⊢
      cases hposition : Path.position? segment with
      | none =>
        rw [hposition] at hpart
        cases hpart
      | some position =>
        rw [hposition] at hpart
        cases hitem : items[position]? with
        | none =>
          simp only [hitem] at hpart
          cases hpart
        | some item =>
          simp only [hitem] at hpart
          obtain ⟨result, hresult, hrelated⟩ := exists_getElem?_of_forall₂ hitems hitem
          simp only [hresult]
          exact ih hrelated hpart
    | @object fields results hkeys hvalues =>
      simp only [Json.select?] at hpart ⊢
      cases hmember : Fields.get? fields segment with
      | none =>
        rw [hmember] at hpart
        cases hpart
      | some member =>
        rw [hmember] at hpart
        obtain ⟨result, hresult, hrelated⟩ := exists_get?_of_forall₂ hkeys hvalues hmember
        rw [hresult]
        exact ih hrelated hpart

/-! ## Trees that stay the same -/

/-- **A tree without placeholders and escapes stays the same.** -/
theorem resolved_self {tree : Json} {place : String}
    (hescape : ∀ text ∈ tree.strings, ¬ ['\\', '{', '{'] <:+: text.toList)
    (hlisted : Placeholder.collect place tree = []) : Resolved sources tree tree := by
  -- The place only names what is listed, and differs for each part of a container.
  induction tree generalizing place with
  | null => exact .null
  | bool truth => exact .bool truth
  | number number => exact .number number
  | string text =>
    have hnone : Template.placeholders text.toList = [] := List.map_eq_nil_iff.mp hlisted
    refine .string ?_
    rw [string_of_no_placeholder hnone, Template.flatMap_literal_of_no_escape, String.ofList_toList]
    exact hescape text List.mem_cons_self
  | array items ih =>
    rw [Placeholder.collect] at hlisted
    refine .array (List.forall₂_same.mpr fun item hitem => ?_)
    obtain ⟨inner, hinner⟩ := Placeholder.exists_collect_subset_collectItems hitem place 0
    rw [hlisted] at hinner
    refine ih item hitem (fun text htext => hescape text ?_) (List.subset_nil.mp hinner)
    exact Json.strings_subset_stringsItems hitem htext
  | object fields ih =>
    rw [Placeholder.collect] at hlisted
    refine .object rfl (List.forall₂_same.mpr (List.forall_mem_map.mpr fun field hfield => ?_))
    obtain ⟨inner, hinner⟩ := Placeholder.exists_collect_subset_collectFields hfield place
    rw [hlisted] at hinner
    refine ih field hfield (fun text htext => hescape text ?_) (List.subset_nil.mp hinner)
    exact Json.strings_subset_stringsFields hfield htext

/-- **Resolution keeps the shape of a tree.** A tree in whose strings nothing is escaped, and for which
no placeholder is listed, stays the same. And the value of any tree has its shape: sequences keep
their length and mappings their keys, at every level, and whatever is no string is kept; each string
is replaced by its own value, and what a path selects in the tree is resolved at the same place. -/
theorem value_keeps_shape (sources : Sources) (tree : Json) :
    (∀ place, (∀ text ∈ tree.strings, ¬ ['\\', '{', '{'] <:+: text.toList) →
      Placeholder.collect place tree = [] → value sources tree = .ok tree) ∧
    (∀ result, value sources tree = .ok result ↔ Resolved sources tree result) ∧
    ∀ result path part, value sources tree = .ok result → tree.select? path = some part →
      ∃ found, result.select? path = some found ∧ value sources part = .ok found := by
  refine ⟨fun place hescape hlisted => value_eq_ok_iff.mpr (resolved_self hescape hlisted),
    fun result => value_eq_ok_iff, fun result path part hvalue hpart => ?_⟩
  obtain ⟨found, hfound, hresolved⟩ := (value_eq_ok_iff.mp hvalue).select? hpart
  exact ⟨found, hfound, value_eq_ok_iff.mpr hresolved⟩

/-- Braces, a blank span and an unclosed opening beside a text. -/
def sampleTree (port : String) : Json :=
  .object [("args", .array [.string "\x7d\x7d \x7b \x7b\x7b \x7d\x7d", .null,
    .string "\x7b\x7b x"]), ("port", .string port)]

/-- With plain text the tree stays the same, and a placeholder is replaced where it stands. -/
theorem value_sampleTree :
    ((∀ text ∈ (sampleTree "80").strings, ¬ ['\\', '{', '{'] <:+: text.toList) ∧
        Placeholder.collect "parameters" (sampleTree "80") = []) ∧
      value portSources (sampleTree "80") = .ok (sampleTree "80") ∧
      ∃ result, value portSources (sampleTree "\x7b\x7bport\x7d\x7d") = .ok result ∧
        result.select? ["port"] = some (.number (.integer 8080)) := by
  have hescape : ∀ text ∈ (sampleTree "80").strings, ¬ ['\\', '{', '{'] <:+: text.toList := by
    decide +kernel
  have hlisted : Placeholder.collect "parameters" (sampleTree "80") = [] := by decide +kernel
  have hsame := (value_keeps_shape portSources (sampleTree "80")).1 _ hescape hlisted
  obtain ⟨result, hresult⟩ :
      ∃ result, value portSources (sampleTree "\x7b\x7bport\x7d\x7d") = .ok result := ⟨_, rfl⟩
  obtain ⟨found, hfound, hvalue⟩ := (value_keeps_shape portSources _).2.2 result ["port"]
    (.string "\x7b\x7bport\x7d\x7d") hresult (by decide +kernel)
  refine ⟨⟨hescape, hlisted⟩, hsame, result, hresult, hfound.trans ?_⟩
  have hport : value portSources (.string "\x7b\x7bport\x7d\x7d") =
      .ok (.number (.integer 8080)) := rfl
  rw [hport] at hvalue
  rw [Except.ok.inj hvalue]

end Runbook.Resolution
