import Runbook.Decimal.Binary64

/-! # Data trees

The values that parameters, outputs and documents are made of. A mapping lists its members in
increasing order of their keys.

* **`Json`** — null, truth values, numbers, strings, sequences and mappings.
* **`Number`** — an integer or a binary floating point number; the two are never equal.
* **`Fields`** — the members of a mapping, with `get?`, `insert`, `erase` and `keys`. -/

namespace Runbook

/-- A number of a data tree. -/
inductive Number where
  /-- An integer between `-2 ^ 63` and `2 ^ 64 - 1`. -/
  | integer (value : Int)
  /-- Any other number. -/
  | double (value : Binary64)
  deriving DecidableEq

/-- A data tree. -/
inductive Json where
  | null
  | bool (value : Bool)
  | number (value : Number)
  | string (value : String)
  | array (items : List Json)
  /-- A mapping; its members stand in increasing order of their keys. -/
  | object (fields : List (String × Json))

/-- The members of a mapping. -/
abbrev Fields := List (String × Json)

namespace Json

instance : Inhabited Json := ⟨.null⟩

mutual

/-- Equality of data trees is decidable. -/
def decEq : (a b : Json) → Decidable (a = b)
  | .null, .null => isTrue rfl
  | .bool a, .bool b => decidable_of_iff (a = b) (by simp)
  | .number a, .number b => decidable_of_iff (a = b) (by simp)
  | .string a, .string b => decidable_of_iff (a = b) (by simp)
  | .array a, .array b => @decidable_of_iff _ (a = b) (by simp) (decEqItems a b)
  | .object a, .object b => @decidable_of_iff _ (a = b) (by simp) (decEqFields a b)
  | .null, .bool _ | .null, .number _ | .null, .string _ | .null, .array _ | .null, .object _
  | .bool _, .null | .bool _, .number _ | .bool _, .string _ | .bool _, .array _
  | .bool _, .object _ | .number _, .null | .number _, .bool _ | .number _, .string _
  | .number _, .array _ | .number _, .object _ | .string _, .null | .string _, .bool _
  | .string _, .number _ | .string _, .array _ | .string _, .object _ | .array _, .null
  | .array _, .bool _ | .array _, .number _ | .array _, .string _ | .array _, .object _
  | .object _, .null | .object _, .bool _ | .object _, .number _ | .object _, .string _
  | .object _, .array _ => isFalse nofun

/-- Equality of sequences is decidable. -/
def decEqItems : (a b : List Json) → Decidable (a = b)
  | [], [] => isTrue rfl
  | [], _ :: _ | _ :: _, [] => isFalse nofun
  | x :: xs, y :: ys =>
    match decEq x y, decEqItems xs ys with
    | isTrue h, isTrue t => isTrue (by rw [h, t])
    | isFalse h, _ => isFalse (by simp [h])
    | _, isFalse t => isFalse (by simp [t])

/-- Equality of members is decidable. -/
def decEqFields : (a b : List (String × Json)) → Decidable (a = b)
  | [], [] => isTrue rfl
  | [], _ :: _ | _ :: _, [] => isFalse nofun
  | (k, x) :: xs, (l, y) :: ys =>
    match decEq x y, decEqFields xs ys with
    | isTrue h, isTrue t => decidable_of_iff (k = l) (by simp [h, t])
    | isFalse h, _ => isFalse (by simp [h])
    | _, isFalse t => isFalse (by simp [t])

end

instance : DecidableEq Json := decEq

end Json

namespace Fields

/-- The value of a key. -/
def get? (fields : Fields) (key : String) : Option Json := fields.lookup key

/-- Whether a key has a value. -/
def contains (fields : Fields) (key : String) : Bool := (fields.get? key).isSome

/-- The keys, in order. -/
def keys (fields : Fields) : List String := fields.map Prod.fst

/-- Gives a key a value: in place of its former one, else where the order of keys wants it. -/
def insert : Fields → String → Json → Fields
  | [], key, value => [(key, value)]
  | (k, v) :: rest, key, value =>
    if key = k then (key, value) :: rest
    else if key < k then (key, value) :: (k, v) :: rest
    else (k, v) :: insert rest key value

/-- Takes a key and its value away. -/
def erase (fields : Fields) (key : String) : Fields := fields.filter fun field => field.1 != key

/-- Gives every key of the second mapping its value there. -/
def update (fields more : Fields) : Fields :=
  more.foldl (fun acc field => insert acc field.1 field.2) fields

/-- The mapping of a list of members, in which the last value of a repeated key counts. -/
def ofList (members : List (String × Json)) : Fields := update [] members

@[simp] theorem get?_nil (key : String) : get? [] key = none := rfl

theorem get?_cons (k key : String) (v : Json) (rest : Fields) :
    get? ((k, v) :: rest) key = if key = k then some v else get? rest key := by
  by_cases h : key = k
  · simp [get?, h]
  · simp [get?, List.lookup_cons, h, beq_false_of_ne h]

/-- An inserted key has the inserted value and every other key keeps its own. -/
theorem get?_insert (fields : Fields) (k key : String) (v : Json) :
    get? (insert fields k v) key = if key = k then some v else get? fields key := by
  induction fields with
  | nil => simp [insert, get?_cons]
  | cons field rest ih =>
    obtain ⟨l, w⟩ := field
    simp only [insert]
    by_cases hk : k = l
    · subst hk
      by_cases h : key = k <;> simp [get?_cons, h]
    · by_cases hlt : k < l
      · simp [hk, hlt, get?_cons]
      · simp only [hk, hlt, if_false, get?_cons, ih]
        by_cases h : key = k
        · subst h
          simp [hk]
        · simp [h]

/-- An erased key has no value and every other key keeps its own. -/
theorem get?_erase (fields : Fields) (k key : String) :
    get? (erase fields k) key = if key = k then none else get? fields key := by
  induction fields with
  | nil => simp [erase]
  | cons field rest ih =>
    obtain ⟨l, w⟩ := field
    simp only [erase, List.filter_cons] at ih ⊢
    by_cases hl : l = k
    · subst hl
      simp only [bne_self_eq_false, Bool.false_eq_true, if_false, ih, get?_cons]
      by_cases h : key = l <;> simp [h]
    · have hl' : (l != k) = true := by simpa using hl
      simp only [hl', if_true, get?_cons, ih]
      by_cases h : key = k
      · subst h
        simp [Ne.symm hl]
      · simp [h]

end Fields

end Runbook
