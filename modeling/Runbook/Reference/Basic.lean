import Runbook.Reference.Path

/-! # References

What the expression of a placeholder refers to. An expression belongs to the first of four
namespaces whose opening it has.

* **`Reference`** — a stored block, a stored variable, an environment variable or an output.
* **`Reference.parse?`** — the reference of an expression, if it has the shape of its namespace. -/

namespace Runbook

/-- What the expression of a placeholder refers to. -/
inductive Reference where
  /-- `store.blocks.<type>.<name>`, and a path into the document of that block. -/
  | block (type name : String) (path : List String)
  /-- `store.variables.<name>`, and a path into the value of that variable. -/
  | variable (name : String) (path : List String)
  /-- `$<NAME>`. -/
  | environment (name : String)
  /-- A path into the outputs of earlier steps. -/
  | output (path : List String)
  deriving DecidableEq, Repr

namespace Reference

/-- The name of the namespace that a reference belongs to. -/
def namespaceName : Reference → String
  | .block .. => "block"
  | .variable .. => "variable"
  | .environment _ => "environment"
  | .output _ => "output"

/-- The text before the first dot, and the text after it if there is a dot. -/
def cutAtDot : List Char → List Char × Option (List Char)
  | [] => ([], none)
  | c :: rest =>
    if c = '.' then ([], some rest)
    else
      let (before, after) := cutAtDot rest
      (c :: before, after)

/-- What remains of a text after an opening that it has. -/
def afterOpening? : (opening text : List Char) → Option (List Char)
  | [], text => some text
  | _ :: _, [] => none
  | o :: opening, c :: text => if o = c then afterOpening? opening text else none

/-- The path after a name: none at all, or what follows a dot. -/
def optionalPath? : Option (List Char) → Option (List String)
  | none => some []
  | some text => Path.parse? text

/-- Whether a text is a name of an environment variable: an ASCII letter or an underscore, then
ASCII letters, digits and underscores. -/
def isEnvironmentName : List Char → Bool
  | [] => false
  | first :: rest => (first.isAlpha || first == '_') && rest.all Text.isNameChar

/-- `<type>.<name>` and an optional path. -/
def ofBlockText? (text : List Char) : Option Reference :=
  match cutAtDot text with
  | (_, none) => none
  | (type, some rest) =>
    let (name, path) := cutAtDot rest
    if type.isEmpty || name.isEmpty then none
    else (optionalPath? path).map (.block (String.ofList type) (String.ofList name))

/-- `<name>` and an optional path. -/
def ofVariableText? (text : List Char) : Option Reference :=
  let (name, path) := cutAtDot text
  if name.isEmpty then none
  else (optionalPath? path).map (.variable (String.ofList name))

/-- How an expression for a block begins. -/
def blockOpening : List Char :=
  ['s', 't', 'o', 'r', 'e', '.', 'b', 'l', 'o', 'c', 'k', 's', '.']

/-- How an expression for a variable begins. -/
def variableOpening : List Char :=
  ['s', 't', 'o', 'r', 'e', '.', 'v', 'a', 'r', 'i', 'a', 'b', 'l', 'e', 's', '.']

/-- The reference of an expression. -/
def parse? (expression : List Char) : Option Reference :=
  let expression := Text.trim expression
  match afterOpening? blockOpening expression with
  | some rest => ofBlockText? rest
  | none =>
    match afterOpening? variableOpening expression with
    | some rest => ofVariableText? rest
    | none =>
      match expression with
      | '$' :: name =>
        if isEnvironmentName name then some (.environment (String.ofList name)) else none
      | path => (Path.parse? path).map .output

end Reference

end Runbook
