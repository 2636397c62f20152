import Runbook.Proofs.Table
import Runbook.Store.Table

/-! # What a store keeps of its insertions

A store held in tables comes about by insertions of blocks and of variables. What is read from it is
told here by these insertions alone. Types that differ in the case of ASCII letters only are one.

* **`TableStore.Insertion`**, **`TableStore.insertAll`** — an insertion, and the store after a history
  of insertions.
* **`TableStore.documents`** — the documents of a type; the insertion of a block changes those of its
  own type only (`documents_insertBlock`).
* **`TableStore.Remembers`** — what a store and a history have to do with each other.
* **`TableStore.remembers_insertAll`** — a store remembers the whole of its history. -/

namespace Runbook.TableStore

/-- An insertion. -/
inductive Insertion where
  /-- A document is put under a type and a name. -/
  | block (type name : String) (document : Json)
  /-- A variable is given a value. -/
  | assign (name : String) (value : Json)

namespace Insertion

/-- The types of the blocks that have been inserted, in small ASCII letters and in order. -/
def typesIn (history : List Insertion) : List String :=
  history.filterMap fun
    | .block type _ _ => some (Text.lowerAscii type)
    | .assign _ _ => none

/-- **The blocks that have been inserted under a type**, whatever the case of its ASCII letters, with
their names and in order. -/
def blocksIn (history : List Insertion) (type : String) : List (String × Json) :=
  history.filterMap fun
    | .block t name document =>
      if Text.lowerAscii t = Text.lowerAscii type then some (name, document) else none
    | .assign _ _ => none

theorem blocksIn_cons_block (t name : String) (document : Json) (history : List Insertion)
    (type : String) :
    blocksIn (.block t name document :: history) type =
      if Text.lowerAscii t = Text.lowerAscii type then (name, document) :: blocksIn history type
      else blocksIn history type := by
  by_cases h : Text.lowerAscii t = Text.lowerAscii type <;> simp [blocksIn, h]

/-- The variables that have been given values, in order. -/
def valuesIn (history : List Insertion) : List (String × Json) :=
  history.filterMap fun
    | .block _ _ _ => none
    | .assign name value => some (name, value)

/-- **The document of the last block that has been inserted under a type and a name.** -/
def lastBlock? (history : List Insertion) (type name : String) : Option Json :=
  (Table.valuesUnder (blocksIn history type) name).getLast?

/-- **The value that has been inserted last under a name.** -/
def lastValue? (history : List Insertion) (name : String) : Option Json :=
  (Table.valuesUnder (valuesIn history) name).getLast?

end Insertion

open Insertion

/-- The store after one more insertion. -/
def carryOut (store : TableStore) : Insertion → TableStore
  | .block type name document => store.insertBlock type name document
  | .assign name value => store.insertVariable name value

/-- The store after insertions have been made, one after another. -/
def insertAll (store : TableStore) (history : List Insertion) : TableStore :=
  history.foldl carryOut store

/-- The documents of a type, by name. -/
def documents (store : TableStore) (type : String) : Table Json :=
  (store.blocks.get? (Text.lowerAscii type)).getD ∅

theorem insertAll_append (store : TableStore) (history later : List Insertion) :
    store.insertAll (history ++ later) = (store.insertAll history).insertAll later :=
  List.foldl_append

/-! ## Reading -/

/-- A block is read from the documents of its type. -/
theorem readBlock_eq (store : TableStore) (type name : String) :
    store.readBlock type name =
      match (store.documents type).get? name with
      | some document => .ok document
      | none => .error (.blockNotFound type name) := by
  rw [readBlock, documents]
  cases store.blocks.get? (Text.lowerAscii type) <;> rfl

/-! ## One insertion -/

/-- **A block comes to the documents of its type**, and those of other types stay as they are. -/
theorem documents_insertBlock (store : TableStore) (t name : String) (document : Json)
    (type : String) :
    (store.insertBlock t name document).documents type =
      if Text.lowerAscii t = Text.lowerAscii type then
        (store.documents type).insert name document
      else store.documents type := by
  rw [documents, insertBlock]
  dsimp only
  rw [Table.get?_insert]
  by_cases h : Text.lowerAscii t = Text.lowerAscii type
  · rw [if_pos h.symm, if_pos h, Option.getD_some, h, documents]
  · rw [if_neg fun heq => h heq.symm, if_neg h, documents]

/-- A type keeps its place, and a new type comes last. -/
theorem keys_blocks_insertBlock (store : TableStore) (type name : String) (document : Json) :
    (store.insertBlock type name document).blocks.keys =
      if Text.lowerAscii type ∈ store.blocks.keys then store.blocks.keys
      else store.blocks.keys ++ [Text.lowerAscii type] :=
  Table.keys_insert store.blocks _ _

/-! ## A history of insertions -/

/-- **The documents of a type are those that have been inserted under it.** -/
theorem documents_insertAll (store : TableStore) (history : List Insertion) (type : String) :
    (store.insertAll history).documents type =
      (store.documents type).insertAll (blocksIn history type) := by
  induction history generalizing store with
  | nil => rfl
  | cons insertion history ih =>
    cases insertion with
    | assign name value => exact ih (store.insertVariable name value)
    | block t name document =>
      have hstep : (store.insertAll (.block t name document :: history)).documents type =
          ((store.insertBlock t name document).documents type).insertAll (blocksIn history type) :=
        ih (store.insertBlock t name document)
      rw [hstep, documents_insertBlock, blocksIn_cons_block]
      by_cases h : Text.lowerAscii t = Text.lowerAscii type
      · rw [if_pos h, if_pos h]
        rfl
      · rw [if_neg h, if_neg h]

/-- **The types stand in order of their first insertion.** -/
theorem keys_blocks_insertAll (history : List Insertion) :
    (empty.insertAll history).blocks.keys = (typesIn history).eraseDups := by
  induction history using List.reverseRecOn with
  | nil => rfl
  | append_singleton history insertion ih =>
    rw [insertAll_append, typesIn, List.filterMap_append]
    cases insertion with
    | assign name value =>
      rw [List.filterMap_cons, List.filterMap_nil, List.append_nil]
      exact ih
    | block type name document =>
      rw [List.filterMap_cons, List.filterMap_nil, eraseDups_concat]
      have hkeys := keys_blocks_insertBlock (empty.insertAll history) type name document
      rw [ih] at hkeys
      exact hkeys

/-- **The variables are those that have been inserted.** -/
theorem values_insertAll (store : TableStore) (history : List Insertion) :
    (store.insertAll history).values = store.values.insertAll (valuesIn history) := by
  induction history generalizing store with
  | nil => rfl
  | cons insertion history ih =>
    cases insertion with
    | block type name document => exact ih (store.insertBlock type name document)
    | assign name value => exact ih (store.insertVariable name value)

/-- **A store that remembers a history**: what was inserted last under a type and a name, or under the
name of a variable, is read, and what was never inserted is reported as asked for. Types, names in a
type and names of variables stand in order of their first insertion. -/
structure Remembers (history : List Insertion) (store : TableStore) : Prop where
  readBlock : ∀ type name, store.readBlock type name =
    match lastBlock? history type name with
    | some document => .ok document
    | none => .error (.blockNotFound type name)
  readVariable : ∀ name, store.readVariable name =
    match lastValue? history name with
    | some value => .ok value
    | none => .error (.variableNotFound name)
  types : store.blocks.keys = (typesIn history).eraseDups
  blockNames : ∀ type, (store.documents type).keys = ((blocksIn history type).map Prod.fst).eraseDups
  valueNames : store.values.keys = ((valuesIn history).map Prod.fst).eraseDups

/-- **The whole history is remembered.** -/
theorem remembers_insertAll (history : List Insertion) :
    Remembers history (empty.insertAll history) where
  readBlock type name := by
    have hget : ((empty.insertAll history).documents type).get? name =
        lastBlock? history type name := by
      rw [documents_insertAll]
      exact Table.get?_ofList (blocksIn history type) name
    rw [readBlock_eq, hget]
  readVariable name := by
    have hget : (empty.insertAll history).values.get? name = lastValue? history name := by
      rw [values_insertAll]
      exact Table.get?_ofList (valuesIn history) name
    cases hlast : lastValue? history name with
    | none => simp only [TableStore.readVariable, hget, hlast]
    | some value => simp only [TableStore.readVariable, hget, hlast]
  types := keys_blocks_insertAll history
  blockNames type := by
    rw [documents_insertAll]
    exact Table.keys_ofList (blocksIn history type)
  valueNames := by
    rw [values_insertAll]
    exact Table.keys_ofList (valuesIn history)

end Runbook.TableStore
