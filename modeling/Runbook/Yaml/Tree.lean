import Runbook.Document
import Runbook.Store.Saved
import Runbook.Yaml.Node

/-! # What YAML nodes mean

Scalars without quotes are null, truth values and numbers where they read as such, an alias is the
node that it names, and tags override what a scalar reads as. What is asked for decides which nodes
are a fault; they are looked at in the order of writing, so the first of them counts.

* **`Atom`** — what a scalar reads as.
* **`Wanted`** — what is asked of a node.
* **`Document.read`** — the document tree of a document that is what is asked for.
* **`PipelineDocument.ofYaml`**, **`TableStore.ofYaml`** — documents and stores from text. -/

namespace Runbook.Yaml

/-- What a scalar reads as. -/
inductive Atom where
  | null
  | bool (value : Bool)
  /-- An integer of at most 128 bits. -/
  | integer (value : Int)
  | double (value : Binary64)
  | infinity (negative : Bool)
  /-- No number, where a number is written. -/
  | notANumber
  | string (text : String)

namespace Atom

/-- The document tree of an atom. An integer that fits no integer type of 64 bits has none. -/
def tree? : Atom → Option Tree
  | .null => some .null
  | .bool b => some (.bool b)
  | .integer n =>
    if -(Nat.pow 2 63 : Int) ≤ n ∧ n < (Nat.pow 2 64 : Int) then some (.number (.integer n)) else none
  | .double x => some (.number (.double x))
  | .infinity _ | .notANumber => some .notFinite
  | .string text => some (.string text)

/-- How an error describes an atom that is not what is asked for. -/
def describe : Atom → String
  | .null => "unit value"
  | .bool b => (Json.bool b).describe
  | .integer n =>
    if (tree? (.integer n)).isSome then (Json.number (.integer n)).describe
    else (Json.number (.integer n)).describe ++ (if n < 0 then " as i128" else " as u128")
  | .double x => (Json.number (.double x)).describe
  | .infinity negative => "floating point `" ++ (if negative then "-" else "") ++ "inf`"
  | .notANumber => "floating point `NaN`"
  | .string text => (Json.string text).describe

end Atom

namespace Plain

/-- The truth value that a plain scalar reads as. -/
def bool? (text : String) : Option Bool :=
  if ["true", "True", "TRUE"].contains text then some true
  else if ["false", "False", "FALSE"].contains text then some false
  else none

/-- Whether a plain scalar is a word for null. -/
def isNull (text : String) : Bool := ["~", "null", "Null", "NULL"].contains text

/-- A number without its sign, and whether that is a minus. -/
def unsigned : List Char → Bool × List Char
  | '-' :: rest => (true, rest)
  | '+' :: rest => (false, rest)
  | rest => (false, rest)

/-- The number that digits of a base write; at least one must be there. -/
def digits? (base : Nat) (text : List Char) : Option Nat :=
  if text.isEmpty then none
  else do
    let values ← text.mapM Text.hexValue?
    if values.all (· < base) then some (values.foldl (fun n d => n * base + d) 0) else none

/-- Whether a text is digits of which the first is a needless zero. -/
def hasNeedlessZero (text : List Char) : Bool :=
  1 < text.length && text.head? == some '0' && text.all Char.isDigit

/-- The size of an integer without its sign, in base ten or after a mark for another base. -/
def magnitude? : List Char → Option Nat
  | '0' :: 'x' :: digits => digits? 16 digits
  | '0' :: 'o' :: digits => digits? 8 digits
  | '0' :: 'b' :: digits => digits? 2 digits
  | text => if hasNeedlessZero text then none else digits? 10 text

/-- The integer that a plain scalar reads as. One that fits no integer type of 128 bits is none. -/
def integer? (text : List Char) : Option Int := do
  let (negative, rest) := unsigned text
  let size ← magnitude? rest
  if size < (if negative then Nat.pow 2 127 + 1 else Nat.pow 2 128) then
    some (if negative then -(size : Int) else size)
  else none

/-- The power of ten at the end of a number. -/
def power? : List Char → Option Int
  | [] => some 0
  | c :: rest =>
    if c == 'e' || c == 'E' then
      let (negative, digits) := unsigned rest
      (digits? 10 digits).map fun n => if negative then -(n : Int) else n
    else none

/-- The finite number that a text without its sign writes, rounded once. -/
def decimal? (negative : Bool) (text : List Char) : Option Binary64 := do
  let whole := text.takeWhile Char.isDigit
  let rest := text.dropWhile Char.isDigit
  let (fraction, rest) := match rest with
    | '.' :: rest => (rest.takeWhile Char.isDigit, rest.dropWhile Char.isDigit)
    | rest => ([], rest)
  let digits ← digits? 10 (whole ++ fraction)
  let power ← power? rest
  Binary64.ofDecimal negative digits (power - fraction.length)

/-- The number that a plain scalar reads as, which need not be finite. -/
def double? (text : String) : Option Atom :=
  if [".inf", ".Inf", ".INF", "+.inf", "+.Inf", "+.INF"].contains text then some (.infinity false)
  else if ["-.inf", "-.Inf", "-.INF"].contains text then some (.infinity true)
  else if [".nan", ".NaN", ".NAN"].contains text then some .notANumber
  else
    let (negative, rest) := unsigned text.toList
    (decimal? negative rest).map .double

/-- What a plain scalar without a tag reads as. -/
def atom (text : String) : Atom :=
  if text.isEmpty || isNull text then .null
  else
    match bool? text with
    | some b => .bool b
    | none =>
      match integer? text.toList with
      | some n => .integer n
      | none =>
        -- digits behind a needless zero are no number at all
        if hasNeedlessZero (unsigned text.toList).2 then .string text
        else (double? text).getD (.string text)

end Plain

/-- Whether a tag is none of the language. -/
def isForeign (tag : Option String) : Bool := tag.any fun tag => tag.startsWith "!"

namespace Atom

/-- What a scalar reads as under a tag of the language: the tag may demand more than the text is. -/
def tagged (tag text : String) : Except DecodeError Atom :=
  let fit (found : Option Atom) (expected : String) : Except DecodeError Atom :=
    match found with
    | some atom => .ok atom
    | none => .error (.invalidValue (Json.string text).describe expected)
  if tag = "tag:yaml.org,2002:bool" then fit ((Plain.bool? text).map .bool) "a boolean"
  else if tag = "tag:yaml.org,2002:int" then
    fit ((Plain.integer? text.toList).map .integer) "an integer"
  else if tag = "tag:yaml.org,2002:float" then fit (Plain.double? text) "a float"
  else if tag = "tag:yaml.org,2002:null" then
    fit (if Plain.isNull text then some .null else none) "null"
  else .ok (.string text)

/-- What a scalar reads as. A tag that is none of the language changes nothing. -/
def ofScalar (tag : Option String) (plain : Bool) (text : String) : Except DecodeError Atom :=
  match tag.filter fun tag => !isForeign (some tag) with
  | some tag => tagged tag text
  | none => .ok (if plain then Plain.atom text else .string text)

end Atom

/-- What is asked of a node. -/
inductive Wanted where
  /-- Anything, in which keys need not be strings. -/
  | content
  /-- Data. -/
  | data
  /-- A mapping of texts, with what is asked of their values. -/
  | table (values : Wanted)
  /-- A mapping with known fields, each at most once, in which others do not matter; and its name. -/
  | record (name : String) (fields : List (String × Wanted))

/-- How an error describes what is asked for. -/
def Wanted.expected : Wanted → String
  | .content => "any value"
  | .data => "any valid JSON value"
  | .table _ => "a map"
  | .record name _ => "struct " ++ name

/-- A step of giving nodes a meaning, which uses up the aliases that may still be followed. -/
abbrev Meaning := StateT Nat (Except Fault)

/-- How deep collections may nest. -/
def depthLimit : Nat := 128

/-- How many aliases may be followed for each event of a document. -/
def aliasFactor : Nat := 100

/-- The step from a mapping to the value of a key. -/
def TrailStep.ofKey : Node → TrailStep
  | .scalar _ _ text => .member text
  | _ => .unnamed

namespace Document

/-- The node itself, or the one that an alias stands for. -/
def target (document : Document) : Node → Meaning Node
  | .alias place number => do
    match ← get with
    | 0 => throw .tooManyAliases
    | left + 1 => do
      set left
      match document.anchors.lookup number with
      | some node => pure node
      | none => throw (.unknownAnchor place)
  | .cut => throw document.breakage
  | node => pure node

/-- How an error describes a node that is not what is asked for, or why it is nothing at all. -/
def describe : Node → Except DecodeError String
  | .scalar head plain text => (Atom.ofScalar head.tag plain text).map Atom.describe
  | .sequence .. => .ok "sequence"
  | _ => .ok "map"

/-- The fault of a node that is not what is asked for. -/
def unfit (expected : String) (trail : Trail) (node : Node) : Fault :=
  match describe node with
  | .ok found => .unfit (.invalidType found expected) trail node.place
  | .error error => .unfit error trail node.place

/-- The text of a key in a mapping. -/
def keyText (document : Document) (expected : String) (trail : Trail) (key : Node) :
    Meaning String := do
  match ← document.target key with
  | .scalar _ _ text => pure text
  | key => throw (unfit expected trail key)

/-- The tree of a scalar of which anything or data is asked. -/
def atomTree (wanted : Wanted) (trail : Trail) (head : Head) (plain : Bool) (text : String) :
    Except Fault Tree :=
  let found := do
    let atom ← Atom.ofScalar head.tag plain text
    match atom.tree?, wanted with
    | some tree, _ => .ok tree
    | none, .data => .error DecodeError.numberOutOfRange
    | none, _ => .error (.invalidType atom.describe wanted.expected)
  found.mapError fun error => .unfit error trail head.place

/-- The tree of a node in which collections may nest `depth` deep, if it is what is asked for. -/
def tree (document : Document) : (depth : Nat) → Wanted → Trail → Node → Meaning Tree
  | depth, wanted, trail, node => do
    let node ← document.target node
    -- a type that nobody knows matters only where no mapping is asked for
    let foreign (head : Head) : Meaning Unit :=
      if isForeign head.tag then
        throw (.unfit (.invalidType "enum" wanted.expected) trail head.place)
      else pure ()
    match node, wanted with
    | .scalar head plain text, .content | .scalar head plain text, .data => do
      foreign head
      atomTree wanted trail head plain text
    | .scalar _ plain text, _ =>
      if plain && text.isEmpty then pure (.mapping []) else throw (unfit wanted.expected trail node)
    | .sequence head items, .content | .sequence head items, .data => do
      foreign head
      match depth with
      | 0 => throw (.tooDeep head.place)
      | depth + 1 => do
        let found ← items.zipIdx.mapM fun (item, index) =>
          document.tree depth wanted (.item index :: trail) item
        pure (.sequence found)
    | .mapping head entries, .content => do
      foreign head
      match depth with
      | 0 => throw (.tooDeep head.place)
      | depth + 1 => do
        let found ← entries.mapM fun (key, value) => do
          let name ← document.tree depth .content trail key
          let value ← document.tree depth .content (.ofKey key :: trail) value
          pure (name, value)
        pure (.mapping found)
    | .mapping head entries, .data => do
      foreign head
      match depth with
      | 0 => throw (.tooDeep head.place)
      | depth + 1 => do
        let found ← entries.zipIdx.mapM fun ((key, value), index) => do
          let expected := if index = 0 then "a string key" else "a string"
          let name ← document.keyText expected trail key
          let value ← document.tree depth .data (.ofKey key :: trail) value
          pure (name, value)
        pure (.record found)
    | .mapping head entries, .table values =>
      match depth with
      | 0 => throw (.tooDeep head.place)
      | depth + 1 => do
        let found ← entries.mapM fun (key, value) => do
          let name ← document.keyText "a string" trail key
          let value ← document.tree depth values (.ofKey key :: trail) value
          pure (name, value)
        pure (.record found)
    | .mapping head entries, .record _ fields =>
      match depth with
      | 0 => throw (.tooDeep head.place)
      | depth + 1 => do
        let found ← entries.foldlM (fun found (key, value) => do
          let name ← document.keyText "field identifier" trail key
          match fields.lookup name with
          | none => if value.isWhole then pure found else throw document.breakage
          | some wanted =>
            if (found.lookup name).isSome then
              throw (.unfit (.duplicateField name) trail head.place)
            else do
              let value ← document.tree depth wanted (.ofKey key :: trail) value
              pure (found ++ [(name, value)])) []
        pure (.record found)
    | _, _ => throw (unfit wanted.expected trail node)

/-- The document tree of a document that is what is asked for. A text without content holds nothing. -/
def read (document : Document) (wanted : Wanted) : Except Fault Tree := do
  let tree ← match document.root with
    | none => .ok (match wanted with
      | .content | .data => Tree.null
      | .table _ | .record .. => .mapping [])
    | some root => (document.tree depthLimit wanted [] root).run' (aliasFactor * document.size)
  document.finish tree

end Document

end Runbook.Yaml

namespace Runbook

/-- Why a text is not a pipeline document. -/
inductive DocumentFault where
  /-- It is no YAML text, or none that a document can be. -/
  | syntactic (fault : Yaml.Fault)
  /-- It is one, but describes no document. -/
  | semantic (error : DocumentError)
  deriving DecidableEq, Repr

/-- The wording of a fault. -/
def DocumentFault.message : DocumentFault → String
  | .syntactic fault => fault.message
  | .semantic error => error.message

/-- The pipeline document of a YAML text. Nothing may stand behind it, whatever it describes. -/
def PipelineDocument.ofYaml (text : String) : Except DocumentFault PipelineDocument := do
  let tree ← ((Yaml.Document.ofText text).read .content).mapError .syntactic
  (PipelineDocument.ofTree tree).mapError .semantic

/-- What is asked of the text of a store. -/
def TableStore.wanted : Yaml.Wanted :=
  .record "InMemoryReferenceStore" [("blocks", .table (.table .data)), ("variables", .table .data)]

/-- The store of a YAML text. The keys of its mappings are the texts of scalars. -/
def TableStore.ofYaml (text : String) : Except Yaml.Fault TableStore := do
  let tree ← (Yaml.Document.ofText text).read wanted
  match TableStore.ofTree? tree with
  | some store => .ok store
  | none => .error (.unfit (.invalidType "map" wanted.expected) [] .start)

end Runbook
