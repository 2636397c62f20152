import Runbook.Store.Table
import Runbook.Tree

/-! # Stores as documents

A store of tables is saved as a mapping with the members `blocks` and `variables`, and such a mapping
is read as a store.

* **`TableStore.toTree`** — the document tree in which a store is saved.
* **`TableStore.ofTree?`** — the store that a document tree describes.
* **`TableStore.text`** — the text of a saved store. -/

namespace Runbook.TableStore

/-- The document tree of a table of values. -/
def tableTree (table : Table Json) : Tree :=
  .record (table.entries.map fun (key, value) => (key, .ofJson value))

/-- The document tree in which a store is saved: its blocks, then its variables, each in order of
insertion. -/
def toTree (store : TableStore) : Tree :=
  .record [
    ("blocks", .record (store.blocks.entries.map fun (type, documents) => (type, tableTree documents))),
    ("variables", tableTree store.values)]

/-- The text of a saved store. -/
def text (store : TableStore) : String := store.toTree.compact

/-- The members of a mapping. -/
def members? : Tree → Option (List (String × Tree))
  | .mapping entries => Tree.members? entries
  | _ => none

/-- The values of a mapping. -/
def values? (tree : Tree) : Option (Table Json) := do
  let members ← members? tree
  let values ← members.mapM fun (key, value) => value.json?.map fun value => (key, value)
  some (.ofList values)

/-- The documents of a mapping of types, the last mapping of a repeated type alone. -/
def documents? (tree : Tree) : Option (Table (Table Json)) := do
  let members ← members? tree
  let types ← members.mapM fun (type, documents) => (values? documents).map fun d => (type, d)
  some (.ofList types)

/-- The values that one of the fields of a store has: none, or those of its only member. -/
def field? {α : Type} (read : Tree → Option (Table α)) (name : String)
    (members : List (String × Tree)) : Option (Table α) :=
  match members.filter fun member => member.1 == name with
  | [] => some ∅
  | [(_, tree)] => read tree
  | _ => none

/-- The store with the given variables and the documents of a table of types, inserted in order. -/
def ofTables (blocks : Table (Table Json)) (values : Table Json) : TableStore :=
  blocks.entries.foldl
    (fun store (type, documents) =>
      documents.entries.foldl (fun store (name, document) => store.insertBlock type name document)
        store)
    ⟨∅, values⟩

/-- The store that a document tree describes, if it does. Members other than `blocks` and
`variables` do not matter, and neither of the two may be repeated. -/
def ofTree? (tree : Tree) : Option TableStore := do
  let members ← members? tree
  let blocks ← field? documents? "blocks" members
  let values ← field? values? "variables" members
  some (ofTables blocks values)

end Runbook.TableStore
