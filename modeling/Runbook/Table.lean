/-! # Tables in order of insertion

A table gives keys values and remembers the order in which the keys came. A key that gets a new
value keeps its place.

* **`Table`** — the entries in order, no key twice.
* **`Table.get?`**, **`Table.insert`**, **`Table.keys`** — with the laws `get?_insert` and
  `keys_insert`. -/

namespace Runbook

/-- Values by keys, in the order in which the keys came first. -/
structure Table (α : Type u) where
  /-- The entries, in order. -/
  entries : List (String × α)
  nodup : (entries.map Prod.fst).Nodup

namespace Table

variable {α : Type u} {β : Type v}

/-- Two tables with the same entries are the same. -/
@[ext] theorem ext {s t : Table α} (h : s.entries = t.entries) : s = t := by
  cases s
  cases t
  simp_all

instance [DecidableEq α] : DecidableEq (Table α) := fun s t =>
  decidable_of_iff (s.entries = t.entries) ⟨ext, fun h => h ▸ rfl⟩

/-- The table without entries. -/
def empty : Table α := ⟨[], by simp⟩

instance : EmptyCollection (Table α) := ⟨empty⟩

instance : Inhabited (Table α) := ⟨empty⟩

/-- The keys, in order. -/
def keys (table : Table α) : List String := table.entries.map Prod.fst

/-- The number of entries. -/
def size (table : Table α) : Nat := table.entries.length

/-- Whether there are no entries. -/
def isEmpty (table : Table α) : Bool := table.entries.isEmpty

/-- The value of a key. -/
def get? (table : Table α) (key : String) : Option α := table.entries.lookup key

/-- Whether a key has a value. -/
def contains (table : Table α) (key : String) : Bool := (table.get? key).isSome

/-- Entries in which a key has a new value: in its place, or else at the end. -/
def setEntry (key : String) (value : α) : List (String × α) → List (String × α)
  | [] => [(key, value)]
  | (k, v) :: rest => if key = k then (key, value) :: rest else (k, v) :: setEntry key value rest

theorem map_fst_setEntry (key : String) (value : α) (entries : List (String × α)) :
    (setEntry key value entries).map Prod.fst =
      if key ∈ entries.map Prod.fst then entries.map Prod.fst
      else entries.map Prod.fst ++ [key] := by
  induction entries with
  | nil => simp [setEntry]
  | cons entry rest ih =>
    obtain ⟨k, v⟩ := entry
    by_cases h : key = k
    · simp [setEntry, h]
    · simp only [setEntry, h, if_false, List.map_cons, ih, List.mem_cons, false_or]
      split <;> simp

theorem nodup_setEntry {entries : List (String × α)} (h : (entries.map Prod.fst).Nodup)
    (key : String) (value : α) : ((setEntry key value entries).map Prod.fst).Nodup := by
  rw [map_fst_setEntry]
  split
  · exact h
  · rename_i hk
    refine List.nodup_append.2 ⟨h, by simp, ?_⟩
    intro a ha b hb
    simp only [List.mem_singleton] at hb
    subst hb
    exact fun hab => hk (hab ▸ ha)

/-- Gives a key a value: in the key's place if it has one, else at the end. -/
def insert (table : Table α) (key : String) (value : α) : Table α :=
  ⟨setEntry key value table.entries, nodup_setEntry table.nodup key value⟩

/-- The table of a list of entries, in which the last value of a repeated key counts. -/
def ofList (entries : List (String × α)) : Table α :=
  entries.foldl (fun table entry => table.insert entry.1 entry.2) empty

/-- The table with each value replaced by its image. -/
def map (f : α → β) (table : Table α) : Table β :=
  ⟨table.entries.map fun entry => (entry.1, f entry.2), by
    simpa [List.map_map, Function.comp_def] using table.nodup⟩

theorem lookup_setEntry (key k : String) (value : α) (entries : List (String × α)) :
    (setEntry key value entries).lookup k =
      if k = key then some value else entries.lookup k := by
  induction entries with
  | nil => by_cases h : k = key <;> simp [setEntry, List.lookup_cons, h, beq_false_of_ne]
  | cons entry rest ih =>
    obtain ⟨l, v⟩ := entry
    by_cases h : key = l
    · subst h
      by_cases hk : k = key
      · simp [setEntry, hk]
      · simp [setEntry, List.lookup_cons, hk, beq_false_of_ne hk]
    · by_cases hl : k = l
      · subst hl
        simp [setEntry, h, Ne.symm h]
      · simp [setEntry, h, List.lookup_cons, beq_false_of_ne hl, ih]

@[simp] theorem get?_empty (key : String) : (empty : Table α).get? key = none := rfl

/-- An inserted key has the inserted value and every other key keeps its own. -/
theorem get?_insert (table : Table α) (key k : String) (value : α) :
    (table.insert key value).get? k = if k = key then some value else table.get? k :=
  lookup_setEntry key k value table.entries

/-- A key keeps its place, and a new key comes last. -/
theorem keys_insert (table : Table α) (key : String) (value : α) :
    (table.insert key value).keys =
      if key ∈ table.keys then table.keys else table.keys ++ [key] :=
  map_fst_setEntry key value table.entries

end Table

end Runbook
