import Runbook.Store.Basic
import Runbook.Table
import Runbook.Text.Blank

/-! # Stores held in tables

* **`TableStore`** — blocks by type and name, and variables by name, in order of insertion.
* **`TableStore.insertBlock`**, **`TableStore.insertVariable`** — later values replace earlier ones;
  the ASCII case of a type does not count.
* **`TableStore.readBlock`**, **`TableStore.readVariable`** — what was inserted last. -/

namespace Runbook

/-- Blocks and variables in tables. -/
structure TableStore where
  /-- The documents by name, by type in small ASCII letters. -/
  blocks : Table (Table Json)
  /-- The values by name. -/
  values : Table Json
  deriving DecidableEq

namespace TableStore

/-- The store that holds nothing. -/
def empty : TableStore := ⟨∅, ∅⟩

instance : Inhabited TableStore := ⟨empty⟩

/-- Puts a document under a type and a name. -/
def insertBlock (store : TableStore) (type name : String) (document : Json) : TableStore :=
  let type := Text.lowerAscii type
  let documents := (store.blocks.get? type).getD ∅
  { store with blocks := store.blocks.insert type (documents.insert name document) }

/-- Puts a value under a name. -/
def insertVariable (store : TableStore) (name : String) (value : Json) : TableStore :=
  { store with values := store.values.insert name value }

/-- The document under a type and a name. -/
def readBlock (store : TableStore) (type name : String) : Except StoreError Json :=
  match (store.blocks.get? (Text.lowerAscii type)).bind fun documents => documents.get? name with
  | some document => .ok document
  | none => .error (.blockNotFound type name)

/-- The value under a name. -/
def readVariable (store : TableStore) (name : String) : Except StoreError Json :=
  match store.values.get? name with
  | some value => .ok value
  | none => .error (.variableNotFound name)

/-- The table as a store. -/
def toStore (store : TableStore) : Store := ⟨store.readBlock, store.readVariable⟩

end TableStore

end Runbook
