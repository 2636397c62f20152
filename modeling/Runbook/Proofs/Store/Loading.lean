import Runbook.Proofs.Store.History
import Runbook.Proofs.Traversal
import Runbook.Yaml.Tree

/-! # What a store keeps of the document it is loaded from

A loaded document counts as a history of insertions: those of its variables and of its blocks, in the
order in which they are written. Only where the mapping of a type is written more than once, in the
very same spelling, does the last of these mappings count alone, in the place of the first.

* **`TableStore.written`**, **`TableStore.counted`** — all the insertions that a document tree writes,
  and those of them that count; they are the same where no type is written twice
  (`counted_eq_written`).
* **`TableStore.ofTree?_eq_some`** — the store that a document tree describes comes about by the
  insertions that count.
* **`TableStore.insertAll_history`** — what a store remembers, empty or loaded in the beginning. -/

namespace Runbook

namespace TableStore

/-! ## What a document writes -/

/-- The members of a mapping whose keys are texts, in order and with repeated keys. -/
def membersOf : Tree → List (String × Tree)
  | .mapping entries => entries.filterMap fun
    | (.string key, value) => some (key, value)
    | _ => none
  | _ => []

/-- A field of the document of a store; it is an empty mapping if it is not written. -/
def field (tree : Tree) (name : String) : Tree := ((membersOf tree).lookup name).getD (.mapping [])

/-- The values that a mapping writes under names, in order. -/
def valuesOf (tree : Tree) : List (String × Json) :=
  (membersOf tree).filterMap fun (name, value) => value.json?.map fun value => (name, value)

/-- **The mappings that a document writes under types**, in order. -/
def typesOf (tree : Tree) : List (String × List (String × Json)) :=
  (membersOf (field tree "blocks")).map fun (type, documents) => (type, valuesOf documents)

/-- The insertions of the blocks of one type. -/
def blocksOf (type : String) (documents : List (String × Json)) : List Insertion :=
  documents.map fun (name, document) => .block type name document

/-- The insertions of variables and of the blocks of several types. -/
def insertionsOf (values : List (String × Json)) (types : List (String × List (String × Json))) :
    List Insertion :=
  values.map (fun (name, value) => .assign name value) ++
    types.flatMap fun (type, documents) => blocksOf type documents

/-- **All the insertions that a document writes**: its variables and its blocks, each in order. -/
def written (tree : Tree) : List Insertion :=
  insertionsOf (valuesOf (field tree "variables")) (typesOf tree)

/-- **The insertions of a document that count**: of the mappings that are written under one spelling
of a type, the last takes the place of the first. -/
def counted (tree : Tree) : List Insertion :=
  insertionsOf (valuesOf (field tree "variables")) (Table.settled (typesOf tree))

/-- Where no type is written twice in one spelling, all that is written counts. -/
theorem counted_eq_written {tree : Tree} (h : ((typesOf tree).map Prod.fst).Nodup) :
    counted tree = written tree := by
  rw [counted, written, Table.settled_of_nodup h]

/-! ## Reading the tree -/

theorem membersOf_eq {tree : Tree} {members : List (String × Tree)} (h : members? tree = some members) :
    membersOf tree = members := by
  cases tree with
  | mapping entries => exact filterMap_of_mapM h
  | null | bool _ | number _ | notFinite | string _ | sequence _ => cases h

theorem values?_eq_some {tree : Tree} {table : Table Json} (h : values? tree = some table) :
    table = .ofList (valuesOf tree) := by
  rw [values?, Option.bind_eq_bind, Option.bind_eq_some_iff] at h
  obtain ⟨members, hmembers, h⟩ := h
  rw [Option.bind_eq_bind, Option.bind_eq_some_iff] at h
  obtain ⟨values, hvalues, h⟩ := h
  rw [valuesOf, membersOf_eq hmembers, filterMap_of_mapM hvalues]
  exact (Option.some.inj h).symm

theorem documents?_eq_some {tree : Tree} {table : Table (Table Json)}
    (h : documents? tree = some table) :
    table = .ofList ((membersOf tree).map fun (type, documents) =>
      (type, .ofList (valuesOf documents))) := by
  rw [documents?, Option.bind_eq_bind, Option.bind_eq_some_iff] at h
  obtain ⟨members, hmembers, h⟩ := h
  rw [Option.bind_eq_bind, Option.bind_eq_some_iff] at h
  obtain ⟨types, htypes, h⟩ := h
  rw [membersOf_eq hmembers, ← Option.some.inj h]
  refine congrArg Table.ofList (map_eq_of_mapM htypes fun member image himage => ?_).symm
  obtain ⟨documents, hdocuments, rfl⟩ := Option.map_eq_some_iff.mp himage
  rw [values?_eq_some hdocuments]

/-- A looked up value is that of the first member with the key. -/
theorem lookup_eq_head?_filter {α : Type} (name : String) (members : List (String × α)) :
    members.lookup name = (members.filter fun member => member.1 == name).head?.map Prod.snd := by
  induction members with
  | nil => rfl
  | cons member members ih =>
    obtain ⟨key, value⟩ := member
    by_cases h : name = key
    · simp [h]
    · have hne : ¬ key = name := fun heq => h heq.symm
      simp [List.lookup_cons, beq_false_of_ne h, hne, ih]

/-- A field is read from the tree that is written for it, if there is one. -/
theorem field?_eq_some {α : Type} {read : Tree → Option (Table α)} {name : String} {tree : Tree}
    {members : List (String × Tree)} {table : Table α} (hmembers : membersOf tree = members)
    (hempty : read (.mapping []) = some ∅) (h : field? read name members = some table) :
    read (field tree name) = some table := by
  rw [field, hmembers, lookup_eq_head?_filter]
  rw [field?] at h
  split at h
  · rename_i hnone
    rw [hnone]
    exact hempty.trans h
  · rename_i hone
    rw [hone]
    exact h
  · cases h

/-! ## Insertions of a whole type -/

/-- Variables are put behind those that are there. -/
theorem insertAll_assign (store : TableStore) (values : List (String × Json)) :
    store.insertAll (values.map fun (name, value) => .assign name value) =
      { store with values := store.values.insertAll values } := by
  induction values generalizing store with
  | nil => rfl
  | cons value values ih => exact ih (store.insertVariable value.1 value.2)

/-- The blocks of one type are put behind the documents that it has. -/
theorem insertAll_blocksOf (store : TableStore) (type : String) {documents : List (String × Json)}
    (h : documents ≠ []) :
    store.insertAll (blocksOf type documents) =
      { store with
        blocks := store.blocks.insert (Text.lowerAscii type)
          ((store.documents type).insertAll documents) } := by
  induction documents using List.reverseRecOn with
  | nil => exact absurd rfl h
  | append_singleton documents document ih =>
    rw [blocksOf, List.map_append, insertAll_append, Table.insertAll_concat]
    by_cases hnil : documents = []
    · subst hnil
      rfl
    · rw [← blocksOf, ih hnil]
      have hlast : ∀ before : TableStore,
          before.insertAll [.block type document.1 document.2] =
            { before with
              blocks := before.blocks.insert (Text.lowerAscii type)
                ((before.documents type).insert document.1 document.2) } := fun before => rfl
      rw [List.map_singleton, hlast, Table.insert_insert, TableStore.documents, Table.get?_insert,
        if_pos rfl, Option.getD_some]

/-- The names in a type may be settled before its blocks are inserted. -/
theorem insertAll_blocksOf_settled (store : TableStore) (type : String)
    (documents : List (String × Json)) :
    store.insertAll (blocksOf type (Table.settled documents)) =
      store.insertAll (blocksOf type documents) := by
  by_cases h : documents = []
  · subst h
    rfl
  · have hsettled : Table.settled documents ≠ [] := by
      intro hnil
      obtain ⟨document, hdocument⟩ := List.exists_mem_of_ne_nil documents h
      have hmem : document.1 ∈ (documents.map Prod.fst).eraseDups :=
        List.mem_eraseDups.mpr (List.mem_map_of_mem hdocument)
      rw [← Table.map_fst_settled, hnil] at hmem
      exact List.not_mem_nil hmem
    rw [insertAll_blocksOf store type hsettled, insertAll_blocksOf store type h,
      ← Table.entries_ofList, Table.insertAll_entries_ofList]

/-- Blocks are inserted type by type. -/
theorem insertAll_insertionsOf (store : TableStore) (values : List (String × Json))
    (types : List (String × List (String × Json))) :
    store.insertAll (insertionsOf values types) =
      types.foldl (fun store type => store.insertAll (blocksOf type.1 type.2))
        { store with values := store.values.insertAll values } := by
  rw [insertionsOf, insertAll_append, insertAll_assign]
  generalize ({ store with values := store.values.insertAll values } : TableStore) = store
  induction types generalizing store with
  | nil => rfl
  | cons type types ih =>
    rw [List.flatMap_cons, insertAll_append, ih]
    rfl

/-- The documents of a table are inserted one after another. -/
theorem foldl_insertBlock (store : TableStore) (type : String) (documents : List (String × Json)) :
    (Table.ofList documents).entries.foldl
        (fun store (name, document) => store.insertBlock type name document) store =
      store.insertAll (blocksOf type documents) := by
  rw [← insertAll_blocksOf_settled, Table.entries_ofList, insertAll, blocksOf, List.foldl_map]
  rfl

/-- **The store of tables comes about by insertions**, in which the types are settled. -/
theorem ofTables_eq (types : List (String × List (String × Json))) (values : List (String × Json)) :
    ofTables (.ofList (types.map fun (type, documents) => (type, .ofList documents)))
        (.ofList values) =
      empty.insertAll (insertionsOf values (Table.settled types)) := by
  rw [insertAll_insertionsOf, ofTables, Table.entries_ofList]
  rw [show Table.settled (types.map fun (type, documents) => (type, Table.ofList documents)) =
    (Table.settled types).map fun type => (type.1, Table.ofList type.2) from
      Table.settled_map Table.ofList types, List.foldl_map]
  simp only [foldl_insertBlock]
  rfl

/-- **The store that a document tree describes comes about by the insertions that count.** -/
theorem ofTree?_eq_some {tree : Tree} {store : TableStore} (h : ofTree? tree = some store) :
    store = empty.insertAll (counted tree) := by
  rw [ofTree?, Option.bind_eq_bind, Option.bind_eq_some_iff] at h
  obtain ⟨members, hmembers, h⟩ := h
  rw [Option.bind_eq_bind, Option.bind_eq_some_iff] at h
  obtain ⟨blocks, hblocks, h⟩ := h
  rw [Option.bind_eq_bind, Option.bind_eq_some_iff] at h
  obtain ⟨values, hvalues, h⟩ := h
  have hblocks := documents?_eq_some (field?_eq_some (membersOf_eq hmembers) rfl hblocks)
  have hvalues := values?_eq_some (field?_eq_some (membersOf_eq hmembers) rfl hvalues)
  rw [← Option.some.inj h, counted, ← ofTables_eq, hblocks, hvalues, typesOf, List.map_map]
  rfl

/-- **A text is the store of what is read from it.** -/
theorem ofYaml_eq_ok_iff {text : String} {store : TableStore} :
    ofYaml text = .ok store ↔
      ∃ tree, (Yaml.Document.ofText text).read wanted = .ok tree ∧ ofTree? tree = some store := by
  rw [ofYaml]
  cases (Yaml.Document.ofText text).read wanted with
  | error fault => simp [bind, Except.bind]
  | ok tree =>
    cases htree : ofTree? tree with
    | none => simp [bind, Except.bind, htree]
    | some found => simp [bind, Except.bind, htree]

/-- **What a store remembers**, whether it was empty or loaded from a document in the beginning: all
that has been inserted, where a document counts as the insertions that it writes, and of the mappings
under one spelling of a type only the last. All that is written counts where there is no second
mapping under any spelling. -/
theorem insertAll_history :
    (∀ history, Remembers history (empty.insertAll history)) ∧
    ∀ text loaded, ofYaml text = .ok loaded →
      ∃ tree, (Yaml.Document.ofText text).read wanted = .ok tree ∧
        (((typesOf tree).map Prod.fst).Nodup → counted tree = written tree) ∧
        ∀ later, Remembers (counted tree ++ later) (loaded.insertAll later) := by
  refine ⟨remembers_insertAll, fun text loaded h => ?_⟩
  obtain ⟨tree, hread, htree⟩ := ofYaml_eq_ok_iff.mp h
  refine ⟨tree, hread, counted_eq_written, fun later => ?_⟩
  rw [ofTree?_eq_some htree, ← insertAll_append]
  exact remembers_insertAll (counted tree ++ later)

/-- A store file with a type in two cases. -/
def sampleText : String := "blocks: {Secret: {a: 1, b: 2}, secret: {b: 3}}"

/-- Both mappings have come to one type, so a block of either is read in any case. -/
theorem insertAll_sampleText :
    ∃ loaded, ofYaml sampleText = .ok loaded ∧
      loaded.readBlock "SECRET" "a" = .ok (.number (.integer 1)) ∧
      loaded.readBlock "Secret" "b" = .ok (.number (.integer 3)) ∧
      (loaded.insertAll [.block "Key" "a" .null]).blocks.keys = ["secret", "key"] := by
  have hload : ofYaml sampleText = .ok ⟨.ofList [("secret", .ofList
      [("a", .number (.integer 1)), ("b", .number (.integer 3))])], ∅⟩ := by decide +kernel
  obtain ⟨-, hloaded⟩ := insertAll_history
  obtain ⟨tree, hread, -, hremembers⟩ := hloaded _ _ hload
  have hcounted : ((Yaml.Document.ofText sampleText).read wanted).toOption.map (fun tree =>
      (Insertion.lastBlock? (counted tree) "SECRET" "a",
        Insertion.lastBlock? (counted tree) "Secret" "b", Insertion.typesIn (counted tree))) =
      some (some (.number (.integer 1)), some (.number (.integer 3)),
        ["secret", "secret", "secret"]) := by decide +kernel
  rw [hread] at hcounted
  obtain ⟨ha, hrest⟩ := Prod.mk.inj (Option.some.inj hcounted)
  obtain ⟨hb, htypes⟩ := Prod.mk.inj hrest
  have hnow := hremembers []
  rw [List.append_nil] at hnow
  refine ⟨_, hload, ?a, ?b, ?keys⟩
  case a =>
    exact (hnow.readBlock "SECRET" "a").trans (by rw [ha])
  case b =>
    exact (hnow.readBlock "Secret" "b").trans (by rw [hb])
  case keys =>
    rw [(hremembers [.block "Key" "a" .null]).types, Insertion.typesIn, List.filterMap_append,
      ← Insertion.typesIn, htypes]
    decide +kernel

/-- A store file with two mappings under one spelling of a type. -/
def repeatedTypeText : String := "blocks: {secret: {a: 1}, secret: {b: 2}}"

/-- The block of the first mapping is written, and yet it cannot be read. -/
theorem written_not_remembered :
    ∃ tree loaded, (Yaml.Document.ofText repeatedTypeText).read wanted = .ok tree ∧
      ofYaml repeatedTypeText = .ok loaded ∧
      Insertion.lastBlock? (written tree) "secret" "a" = some (.number (.integer 1)) ∧
      loaded.readBlock "secret" "a" = .error (.blockNotFound "secret" "a") ∧
      ¬ Remembers (written tree) loaded := by
  have hload : ofYaml repeatedTypeText =
      .ok ⟨.ofList [("secret", .ofList [("b", .number (.integer 2))])], ∅⟩ := by decide +kernel
  obtain ⟨tree, hread, -⟩ := ofYaml_eq_ok_iff.mp hload
  have hwritten : ((Yaml.Document.ofText repeatedTypeText).read wanted).toOption.map (fun tree =>
      Insertion.lastBlock? (written tree) "secret" "a") = some (some (.number (.integer 1))) := by
    decide +kernel
  rw [hread] at hwritten
  have hlast : Insertion.lastBlock? (written tree) "secret" "a" = some (.number (.integer 1)) :=
    Option.some.inj hwritten
  refine ⟨tree, _, hread, hload, hlast, by decide +kernel, fun h => ?_⟩
  have hread := h.readBlock "secret" "a"
  rw [hlast] at hread
  exact absurd hread (by decide +kernel)

end TableStore

end Runbook
