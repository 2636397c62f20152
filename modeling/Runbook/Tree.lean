import Runbook.Json.Printer

/-! # Document trees

What a document holds before it is given a meaning. Unlike a data tree, a document tree keeps the
members of a mapping as they were written: in their order, repeated keys included, and with keys that
need not be strings.

* **`Tree`** — a document tree.
* **`Tree.json?`** — the data tree that a document tree stands for, if it does.
* **`Tree.ofJson`**, **`Tree.compact`** — the document tree of a data tree, and the text of a tree. -/

namespace Runbook

/-- A document tree. -/
inductive Tree where
  | null
  | bool (value : Bool)
  | number (value : Number)
  /-- An infinity or no number at all. -/
  | notFinite
  | string (value : String)
  | sequence (items : List Tree)
  /-- A mapping, with its members in the order in which they were written. -/
  | mapping (members : List (Tree × Tree))

namespace Tree

instance : Inhabited Tree := ⟨.null⟩

mutual

/-- The data tree that a document tree stands for. A number that is not finite is null, and the last
value of a repeated key counts. There is none when a key is no string. -/
def json? : Tree → Option Json
  | .null | .notFinite => some .null
  | .bool b => some (.bool b)
  | .number n => some (.number n)
  | .string s => some (.string s)
  | .sequence items => (jsonItems? items).map .array
  | .mapping members => (jsonMembers? members).map fun fields => .object (Fields.ofList fields)

/-- The data trees of the items of a sequence. -/
def jsonItems? : List Tree → Option (List Json)
  | [] => some []
  | item :: items =>
    match json? item, jsonItems? items with
    | some value, some values => some (value :: values)
    | _, _ => none

/-- The keys and data trees of the members of a mapping. -/
def jsonMembers? : List (Tree × Tree) → Option (List (String × Json))
  | [] => some []
  | (.string key, item) :: members =>
    match json? item, jsonMembers? members with
    | some value, some fields => some ((key, value) :: fields)
    | _, _ => none
  | _ :: _ => none

end

mutual

/-- The document tree of a data tree. -/
def ofJson : Json → Tree
  | .null => .null
  | .bool b => .bool b
  | .number n => .number n
  | .string s => .string s
  | .array items => .sequence (ofItems items)
  | .object fields => .mapping (ofFields fields)

/-- The document trees of the items of a sequence. -/
def ofItems : List Json → List Tree
  | [] => []
  | item :: items => ofJson item :: ofItems items

/-- The document trees of the members of a mapping. -/
def ofFields : List (String × Json) → List (Tree × Tree)
  | [] => []
  | (key, value) :: fields => (.string key, ofJson value) :: ofFields fields

end

/-- A mapping whose keys are strings. -/
def record (members : List (String × Tree)) : Tree :=
  .mapping (members.map fun (key, value) => (.string key, value))

/-- The members of a mapping, if all keys are strings. -/
def members? (entries : List (Tree × Tree)) : Option (List (String × Tree)) :=
  entries.mapM fun
    | (.string key, value) => some (key, value)
    | _ => none

mutual

/-- The text of a tree without blanks between its tokens. -/
def compactText : Tree → List Char
  | .null | .notFinite => ['n', 'u', 'l', 'l']
  | .bool b => Json.compactText (.bool b)
  | .number n => n.render
  | .string s => Json.quote s.toList
  | .sequence items => '[' :: (compactItems items ++ [']'])
  | .mapping members => '{' :: (compactMembers members ++ ['}'])

/-- The items of a sequence, separated by commas. -/
def compactItems : List Tree → List Char
  | [] => []
  | [item] => compactText item
  | item :: next :: rest => compactText item ++ ',' :: compactItems (next :: rest)

/-- The members of a mapping, separated by commas. -/
def compactMembers : List (Tree × Tree) → List Char
  | [] => []
  | [(key, value)] => compactText key ++ ':' :: compactText value
  | (key, value) :: next :: rest =>
    compactText key ++ ':' :: (compactText value ++ ',' :: compactMembers (next :: rest))

end

/-- The text of a tree without blanks between its tokens. -/
def compact (tree : Tree) : String := String.ofList (compactText tree)

end Tree

end Runbook
