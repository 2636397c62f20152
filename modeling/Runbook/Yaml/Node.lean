import Runbook.Yaml.Event

/-! # YAML nodes

The structure of a YAML text: scalars as they are written, sequences and mappings, with the tags that
stand before them, and aliases in place of nodes that were named before.

* **`Node`** — a node of a text.
* **`Node.ofEvents`** — the node that events describe.
* **`Document`** — the first document of a text, and what is wrong with it or behind it.
* **`Document.ofText`** — reads a text. -/

namespace Runbook.Yaml

/-- A node of a YAML text. -/
inductive Node where
  /-- A scalar; a plain one stands without quotes and is no block of lines. -/
  | scalar (head : Head) (plain : Bool) (text : String)
  /-- A sequence. -/
  | sequence (head : Head) (items : List Node)
  /-- A mapping, with its entries in order. -/
  | mapping (head : Head) (entries : List (Node × Node))
  /-- The node that a number stands for. -/
  | alias (place : Mark) (number : Nat)
  /-- The text breaks off before this node, or before the collection around it ends. -/
  | cut

namespace Node

instance : Inhabited Node := ⟨.cut⟩

/-- Where a node begins. -/
def place : Node → Mark
  | .scalar head .. | .sequence head _ | .mapping head _ => head.place
  | .alias place _ => place
  | .cut => .start

mutual

/-- Whether a node is all there. -/
def isWhole : Node → Bool
  | .scalar .. | .alias .. => true
  | .sequence _ items => areWhole items
  | .mapping _ entries => arePairsWhole entries
  | .cut => false

/-- Whether the items of a sequence are all there. -/
def areWhole : List Node → Bool
  | [] => true
  | item :: items => item.isWhole && areWhole items

/-- Whether the entries of a mapping are all there. -/
def arePairsWhole : List (Node × Node) → Bool
  | [] => true
  | (key, value) :: entries => key.isWhole && value.isWhole && arePairsWhole entries

end

/-- A node by the number that its head gives it. -/
def byNumber (head : Head) (node : Node) : List (Nat × Node) :=
  match head.anchor with
  | some number => [(number, node)]
  | none => []

mutual

/-- The nodes in a node that numbers stand for, each before what it holds. -/
def numbered : Node → List (Nat × Node)
  | .scalar head plain text => byNumber head (.scalar head plain text)
  | .sequence head items => byNumber head (.sequence head items) ++ numberedItems items
  | .mapping head entries => byNumber head (.mapping head entries) ++ numberedEntries entries
  | .alias .. | .cut => []

/-- The nodes in the items of a sequence that numbers stand for. -/
def numberedItems : List Node → List (Nat × Node)
  | [] => []
  | item :: items => numbered item ++ numberedItems items

/-- The nodes in the entries of a mapping that numbers stand for. -/
def numberedEntries : List (Node × Node) → List (Nat × Node)
  | [] => []
  | (key, value) :: entries => numbered key ++ numbered value ++ numberedEntries entries

end

mutual

/-- The node at the start of events, and the events behind it. -/
def take : (fuel : Nat) → List Event → Node × List Event
  | 0, _ | _, [] => (.cut, [])
  | fuel + 1, event :: rest =>
    match event with
    | .scalar head plain text => (.scalar head plain text, rest)
    | .alias place number => (.alias place number, rest)
    | .sequenceOpen head =>
      let (items, rest) := takeItems fuel rest
      (.sequence head items, rest)
    | .mappingOpen head =>
      let (entries, rest) := takeEntries fuel rest
      (.mapping head entries, rest)
    | .sequenceClose | .mappingClose => (.cut, rest)

/-- The items of a sequence up to its end, and the events behind that. -/
def takeItems : (fuel : Nat) → List Event → List Node × List Event
  | 0, _ | _, [] => ([.cut], [])
  | _ + 1, .sequenceClose :: rest => ([], rest)
  | fuel + 1, events =>
    let (item, rest) := take fuel events
    let (items, rest) := takeItems fuel rest
    (item :: items, rest)

/-- The entries of a mapping up to its end, and the events behind that. -/
def takeEntries : (fuel : Nat) → List Event → List (Node × Node) × List Event
  | 0, _ | _, [] => ([(.cut, .cut)], [])
  | _ + 1, .mappingClose :: rest => ([], rest)
  | fuel + 1, events =>
    let (key, rest) := take fuel events
    let (value, rest) := take fuel rest
    let (entries, rest) := takeEntries fuel rest
    ((key, value) :: entries, rest)

end

/-- The node that events describe. Each of them is looked at twice at most. -/
def ofEvents (events : List Event) : Node := (take (2 * events.length + 1) events).1

end Node

/-- The first document of a text. -/
structure Document where
  /-- Its content; a text without any has none. -/
  root : Option Node
  /-- How many events it takes. -/
  size : Nat
  /-- The nodes that numbers stand for, the last one first. -/
  anchors : List (Nat × Node)
  /-- Why it breaks off, if it does. -/
  fault : Option Fault
  /-- Whether nothing stands behind it. -/
  alone : Bool

namespace Document

/-- The document of events. -/
def ofEvents (events : List Event) (fault : Option Fault) (alone : Bool) : Document :=
  let root := Node.ofEvents events
  ⟨some root, events.length, root.numbered.reverse, fault, alone⟩

/-- The first document of a text. -/
def ofText (text : String) : Document :=
  let (tokens, fault) := Token.ofText text
  -- between two tokens no reader is entered more than four deep
  let fuel := 4 * tokens.length + 8
  let (found, reader) := (Read.document fuel).run.run
    ⟨tokens, fault.getD .severalDocuments, Read.defaultHandles, ∅, []⟩
  let events := reader.events.reverse
  match found with
  | .error fault => ofEvents events (some fault) true
  | .ok false => ⟨none, 1, [], none, true⟩
  | .ok true =>
    let (alone, _) := (Read.nothingLeft fuel).run.run reader
    ofEvents events none (alone matches .ok true)

/-- The fault that a document breaks off with. -/
def breakage (document : Document) : Fault := document.fault.getD .severalDocuments

/-- A result, unless the document breaks off or something stands behind it. -/
def finish {α : Type} (document : Document) (result : α) : Except Fault α :=
  match document.fault with
  | some fault => .error fault
  | none => if document.alone then .ok result else .error .severalDocuments

end Document

end Runbook.Yaml
