import Runbook.Proofs.Store.Loading
import Runbook.Proofs.Text.Ascii
import Runbook.Proofs.Tree

/-! # Saved stores

A store is saved as a document tree. When a store is loaded from such a tree, the types of its blocks
lose the case of their letters and every block is inserted anew. A store that has come about by
insertions has nothing to lose thereby.

* **`TableStore.Reachable`** — the stores that come about by insertions, empty or loaded from a text in
  the beginning.
* **`TableStore.Savable`** — what every insertion keeps: types in small letters, no type without
  documents, and data in order.
* **`TableStore.ofTables_savable`** — the tables of such a store make up the store again.
* **`TableStore.ofTree?_toTree_of_reachable`** — a reachable store is loaded as it was saved. -/

namespace Runbook

namespace TableStore

open Insertion

/-- The document or the value that an insertion brings. -/
def Insertion.content : Insertion → Json
  | .block _ _ document => document
  | .assign _ value => value

/-- **A store that insertions have made** from the empty store or from one that was loaded. -/
inductive Reachable : TableStore → Prop
  | empty : Reachable empty
  | loaded {text : String} {store : TableStore} (hload : ofYaml text = .ok store) : Reachable store
  | insertion {store : TableStore} (next : Insertion) (hcontent : next.content.Ordered)
    (hstore : Reachable store) : Reachable (store.carryOut next)

/-- **A store that loses nothing when its blocks are inserted anew.** -/
structure Savable (store : TableStore) : Prop where
  lowerAscii_type : ∀ entry ∈ store.blocks.entries, Text.lowerAscii entry.1 = entry.1
  documents_ne_nil : ∀ entry ∈ store.blocks.entries, entry.2.entries ≠ []
  documents_ordered : ∀ entry ∈ store.blocks.entries, ∀ document ∈ entry.2.entries, document.2.Ordered
  values_ordered : ∀ value ∈ store.values.entries, value.2.Ordered

/-! ## What insertions keep -/

theorem savable_empty : Savable empty where
  lowerAscii_type _ h := absurd h List.not_mem_nil
  documents_ne_nil _ h := absurd h List.not_mem_nil
  documents_ordered _ h := absurd h List.not_mem_nil
  values_ordered _ h := absurd h List.not_mem_nil

/-- The documents of a type are ordered, also where there are none. -/
theorem Savable.ordered_documents {store : TableStore} (h : store.Savable) (type : String)
    {document : String × Json} (hdocument : document ∈ (store.documents type).entries) :
    document.2.Ordered := by
  rw [documents] at hdocument
  cases hget : store.blocks.get? (Text.lowerAscii type) with
  | none =>
    rw [hget] at hdocument
    exact absurd hdocument List.not_mem_nil
  | some found =>
    rw [hget] at hdocument
    exact h.documents_ordered _ (Table.mem_entries_of_get? hget) document hdocument

/-- **Every insertion keeps it.** -/
theorem Savable.carryOut {store : TableStore} (h : store.Savable) {next : Insertion}
    (hcontent : next.content.Ordered) : (store.carryOut next).Savable := by
  cases next with
  | assign name value =>
    refine ⟨h.lowerAscii_type, h.documents_ne_nil, h.documents_ordered, fun entry hentry => ?_⟩
    rcases Table.eq_or_mem_of_mem_insert hentry with rfl | hold
    · exact hcontent
    · exact h.values_ordered entry hold
  | block type name document =>
    refine ⟨fun entry hentry => ?_, fun entry hentry => ?_, fun entry hentry => ?_, h.values_ordered⟩
    · rcases Table.eq_or_mem_of_mem_insert hentry with rfl | hold
      · exact Text.lowerAscii_lowerAscii type
      · exact h.lowerAscii_type entry hold
    · rcases Table.eq_or_mem_of_mem_insert hentry with rfl | hold
      · exact Table.entries_insert_ne_nil _ name document
      · exact h.documents_ne_nil entry hold
    · rcases Table.eq_or_mem_of_mem_insert hentry with rfl | hold
      · intro found hfound
        rcases Table.eq_or_mem_of_mem_insert hfound with rfl | hfound
        · exact hcontent
        · exact h.ordered_documents type hfound
      · exact h.documents_ordered entry hold

/-- A history of insertions keeps it. -/
theorem Savable.insertAll {store : TableStore} (h : store.Savable) {history : List Insertion}
    (hcontent : ∀ next ∈ history, next.content.Ordered) : (store.insertAll history).Savable := by
  induction history generalizing store with
  | nil => exact h
  | cons next history ih =>
    obtain ⟨hnext, hrest⟩ := List.forall_mem_cons.mp hcontent
    exact ih (h.carryOut hnext) hrest

/-! ## What a document brings -/

/-- The values of a mapping are read as data. -/
theorem ordered_of_mem_valuesOf {tree : Tree} {value : String × Json} (h : value ∈ valuesOf tree) :
    value.2.Ordered := by
  obtain ⟨member, -, hmember⟩ := List.mem_filterMap.mp h
  obtain ⟨found, hfound, rfl⟩ := Option.map_eq_some_iff.mp hmember
  exact Tree.ordered_of_json? hfound

/-- All that a document brings is in order, in whatever order it is written. -/
theorem ordered_of_mem_counted {tree : Tree} {next : Insertion} (h : next ∈ counted tree) :
    next.content.Ordered := by
  rw [counted, insertionsOf, List.mem_append] at h
  rcases h with hassign | hblock
  · obtain ⟨value, hvalue, rfl⟩ := List.mem_map.mp hassign
    exact ordered_of_mem_valuesOf hvalue
  · obtain ⟨type, htype, hblock⟩ := List.mem_flatMap.mp hblock
    obtain ⟨document, hdocument, rfl⟩ := List.mem_map.mp hblock
    obtain ⟨member, -, rfl⟩ := List.mem_map.mp (Table.mem_of_mem_settled htype)
    exact ordered_of_mem_valuesOf hdocument

/-- **Every reachable store is savable.** -/
theorem savable_of_reachable {store : TableStore} (h : Reachable store) : Savable store := by
  induction h with
  | empty => exact savable_empty
  | loaded hload =>
    obtain ⟨tree, -, htree⟩ := ofYaml_eq_ok_iff.mp hload
    rw [ofTree?_eq_some htree]
    exact savable_empty.insertAll fun next hnext => ordered_of_mem_counted hnext
  | insertion next hcontent _ ih => exact ih.carryOut hcontent

/-! ## Inserting all blocks anew -/

/-- Types that are new, in small letters and not empty come to the end with all their documents. -/
theorem foldl_blocksOf (store : TableStore) {types : List (String × List (String × Json))}
    (hlower : ∀ type ∈ types, Text.lowerAscii type.1 = type.1)
    (hne : ∀ type ∈ types, type.2 ≠ []) (hnodup : (types.map Prod.fst).Nodup)
    (hnew : ∀ type ∈ types, store.blocks.get? type.1 = none) :
    types.foldl (fun store type => store.insertAll (blocksOf type.1 type.2)) store =
      { store with
        blocks := store.blocks.insertAll (types.map fun type => (type.1, Table.ofList type.2)) } := by
  induction types generalizing store with
  | nil => rfl
  | cons type types ih =>
    obtain ⟨hlowerType, hlower⟩ := List.forall_mem_cons.mp hlower
    obtain ⟨hneType, hne⟩ := List.forall_mem_cons.mp hne
    obtain ⟨hnewType, hnew⟩ := List.forall_mem_cons.mp hnew
    obtain ⟨hfresh, hnodup⟩ := List.nodup_cons.mp hnodup
    have hnone : store.documents type.1 = ∅ := by
      rw [documents, hlowerType, hnewType, Option.getD_none]
    have hstep : store.insertAll (blocksOf type.1 type.2) =
        { store with blocks := store.blocks.insert type.1 (Table.ofList type.2) } := by
      rw [insertAll_blocksOf store type.1 hneType, hlowerType, hnone]
      rfl
    rw [List.foldl_cons, hstep, ih _ hlower hne hnodup]
    · rfl
    · intro other hother
      have hother' : other.1 ≠ type.1 := fun heq => hfresh (heq ▸ List.mem_map_of_mem hother)
      dsimp only
      rw [Table.get?_insert, if_neg hother', hnew other hother]

/-- **The tables of a savable store make up the store again**, block by block. -/
theorem ofTables_savable {store : TableStore} (h : store.Savable) :
    ofTables store.blocks store.values = store := by
  let types := store.blocks.entries.map fun entry => (entry.1, entry.2.entries)
  have htables : types.map (fun type => (type.1, Table.ofList type.2)) = store.blocks.entries := by
    rw [List.map_map]
    refine (List.map_congr_left fun entry _ => ?_).trans (List.map_id _)
    exact Prod.ext rfl (Table.ofList_entries entry.2)
  have hkeys : types.map Prod.fst = store.blocks.keys := List.map_map
  have hnodup : (types.map Prod.fst).Nodup := hkeys ▸ store.blocks.nodup
  have hlower : ∀ type ∈ types, Text.lowerAscii type.1 = type.1 :=
    List.forall_mem_map.mpr h.lowerAscii_type
  have hne : ∀ type ∈ types, type.2 ≠ [] := List.forall_mem_map.mpr h.documents_ne_nil
  have hblocks : Table.ofList (types.map fun type => (type.1, Table.ofList type.2)) = store.blocks := by
    rw [htables, Table.ofList_entries]
  calc ofTables store.blocks store.values
      = ofTables (.ofList (types.map fun type => (type.1, Table.ofList type.2)))
          (.ofList store.values.entries) := by rw [hblocks, Table.ofList_entries]
    _ = empty.insertAll (insertionsOf store.values.entries types) := by
        refine (ofTables_eq types store.values.entries).trans ?_
        rw [Table.settled_of_nodup hnodup]
    _ = ⟨.ofList (types.map fun type => (type.1, Table.ofList type.2)),
          .ofList store.values.entries⟩ := by
        rw [insertAll_insertionsOf, foldl_blocksOf _ hlower hne hnodup fun _ _ => rfl]
        rfl
    _ = store := by rw [hblocks, Table.ofList_entries]

/-! ## The tree of a store -/

theorem members?_record (members : List (String × Tree)) :
    members? (.record members) = some members :=
  Tree.members?_record members

/-- The tree of a table of values is read as the table. -/
theorem values?_tableTree {table : Table Json} (h : ∀ value ∈ table.entries, value.2.Ordered) :
    values? (tableTree table) = some table := by
  rw [values?, tableTree, members?_record, Option.bind_eq_bind, Option.bind_some,
    mapM_map_eq_some]
  · exact congrArg some (Table.ofList_entries table)
  · intro value hvalue
    dsimp only
    rw [Tree.json?_ofJson (h value hvalue), Option.map_some]

/-- The tree of a table of types is read as the table. -/
theorem documents?_tree {blocks : Table (Table Json)}
    (h : ∀ entry ∈ blocks.entries, ∀ document ∈ entry.2.entries, document.2.Ordered) :
    documents? (.record (blocks.entries.map fun entry => (entry.1, tableTree entry.2))) =
      some blocks := by
  rw [documents?, members?_record, Option.bind_eq_bind, Option.bind_some, mapM_map_eq_some]
  · exact congrArg some (Table.ofList_entries blocks)
  · intro entry hentry
    dsimp only
    rw [values?_tableTree (h entry hentry), Option.map_some]

/-- A field that stands in a tree once is read there. -/
theorem field?_of_filter {α : Type} {read : Tree → Option (Table α)} {name : String}
    {members : List (String × Tree)} {tree : Tree}
    (h : members.filter (fun member => member.1 == name) = [(name, tree)]) :
    field? read name members = read tree := by
  rw [field?, h]

/-- **A savable store is loaded from the tree in which it is saved.** -/
theorem ofTree?_toTree_of_savable {store : TableStore} (h : store.Savable) :
    ofTree? store.toTree = some store := by
  have htree : store.toTree =
      .record [("blocks", .record (store.blocks.entries.map fun entry => (entry.1, tableTree entry.2))),
        ("variables", tableTree store.values)] := rfl
  rw [ofTree?, htree, members?_record, Option.bind_eq_bind, Option.bind_some,
    field?_of_filter (by simp; rfl), documents?_tree h.documents_ordered,
    field?_of_filter (by simp; rfl), values?_tableTree h.values_ordered]
  exact congrArg some (ofTables_savable h)

/-- **A store is loaded as it was saved.** Whatever insertions have made it, from the empty store or
from one that was loaded itself, the document tree in which it is saved describes the very same store:
the same types, names and variables in the same order, with the same data. So does every text that is
read as that tree. -/
theorem ofTree?_toTree_of_reachable (store : TableStore) (h : Reachable store) :
    ofTree? store.toTree = some store ∧
      ∀ text, (Yaml.Document.ofText text).read wanted = .ok store.toTree → ofYaml text = .ok store := by
  have htree := ofTree?_toTree_of_savable (savable_of_reachable h)
  exact ⟨htree, fun text hread => ofYaml_eq_ok_iff.mpr ⟨store.toTree, hread, htree⟩⟩

/-- A store that was loaded, with types in two cases, and then given one more block and a variable. -/
def sampleStore : TableStore :=
  (TableStore.insertAll ⟨.ofList [("secret", .ofList
      [("a", .number (.integer 1)), ("b", .number (.integer 3))])], ∅⟩
    [.block "KEY" "a" (.object [("k", .null), ("l", .array [])]), .assign "region" (.string "us")])

/-- It is loaded again, also from the text in which it is saved. -/
theorem ofTree?_toTree_sampleStore :
    Reachable sampleStore ∧ ofTree? sampleStore.toTree = some sampleStore ∧
      sampleStore.blocks.keys = ["secret", "key"] ∧ ofYaml sampleStore.text = .ok sampleStore := by
  have hload : ofYaml sampleText = .ok ⟨.ofList [("secret", .ofList
      [("a", .number (.integer 1)), ("b", .number (.integer 3))])], ∅⟩ := by decide +kernel
  have hdocument : Json.Ordered (.object [("k", .null), ("l", .array [])]) := by
    refine .object (by decide +kernel) ?_
    simp only [List.mem_cons, List.not_mem_nil, or_false, forall_eq_or_imp, forall_eq]
    exact ⟨.null, .array fun item hitem => absurd hitem List.not_mem_nil⟩
  have hreachable : Reachable sampleStore :=
    ((Reachable.loaded hload).insertion (.block "KEY" "a" _) hdocument).insertion
      (.assign "region" _) (.string "us")
  exact ⟨hreachable, (ofTree?_toTree_of_reachable sampleStore hreachable).1, by decide +kernel,
    by decide +kernel⟩

end TableStore

end Runbook
