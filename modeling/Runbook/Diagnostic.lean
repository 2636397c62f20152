import Runbook.Decoding

/-! # Diagnostics

* **`Diagnostic`** — a message that a step raises and that never makes it fail, with a style in
  which it is to be printed.
* **`Diagnostic.ofJson`**, **`Diagnostic.listText`** — diagnostics read from and written as data. -/

namespace Runbook

/-- What a diagnostic is about. -/
inductive DiagnosticKind where
  /-- A name or parameter that will go away is in use. -/
  | deprecation
  /-- Anything else. -/
  | warning
  deriving DecidableEq, Repr

namespace DiagnosticKind

/-- The word for a kind in data. -/
def word : DiagnosticKind → String
  | .deprecation => "deprecation"
  | .warning => "warning"

/-- The word for a kind in logs. -/
def label : DiagnosticKind → String
  | .deprecation => "Deprecation"
  | .warning => "Warning"

/-- The kind that a word means. -/
def ofWord (word : String) : Except DecodeError DiagnosticKind :=
  if word = "deprecation" then .ok .deprecation
  else if word = "warning" then .ok .warning
  else .error (.unknownVariant word ["deprecation", "warning"])

/-- The kind that a value means: a word, or a mapping from one word to null. -/
def ofJson : Json → Except DecodeError DiagnosticKind
  | .string word => ofWord word
  | .object [(word, content)] =>
    match ofWord word, content with
    | .error e, _ => .error e
    | .ok kind, .null => .ok kind
    | .ok _, other => .error (.invalidType other.describe "unit")
  | .object _ => .error (.invalidValue "map" "map with a single key")
  | other => .error (.invalidType other.describe "string or map")

end DiagnosticKind

/-- A message that never makes a step fail. -/
structure Diagnostic where
  /-- What it is about. -/
  kind : DiagnosticKind
  /-- The message. -/
  message : String
  /-- The style in which it is to be printed, if any. -/
  style : Option String
  deriving DecidableEq, Repr

namespace Diagnostic

/-- The style of a diagnostic that asks for none in particular. -/
def defaultStyle : String := "yellow"

/-- A notice that something will go away. -/
def deprecation (message : String) : Diagnostic := ⟨.deprecation, message, some defaultStyle⟩

/-- Any other notice. -/
def warning (message : String) : Diagnostic := ⟨.warning, message, some defaultStyle⟩

/-- A string, or the error for another value. -/
def textOf : Json → Except DecodeError String
  | .string s => .ok s
  | other => .error (.invalidType other.describe "a string")

/-- A string or null, or the error for another value. -/
def styleOf : Json → Except DecodeError (Option String)
  | .null => .ok none
  | other => (textOf other).map some

/-- The diagnostic of a mapping, in which members of other keys do not matter. -/
def ofFields (fields : Fields) : Except DecodeError Diagnostic := do
  let kind? ← (Fields.get? fields "kind").mapM DiagnosticKind.ofJson
  let message? ← (Fields.get? fields "message").mapM textOf
  let style? ← (Fields.get? fields "style").mapM styleOf
  match kind?, message? with
  | none, _ => .error (.missingField "kind")
  | _, none => .error (.missingField "message")
  | some kind, some message => .ok ⟨kind, message, style?.join⟩

/-- The diagnostic of a sequence of its parts, the last of which may be missing. -/
def ofItems : List Json → Except DecodeError Diagnostic
  | [] => .error (.invalidLength 0 "struct Diagnostic with 3 elements")
  | [kind] => do
    let _ ← DiagnosticKind.ofJson kind
    .error (.invalidLength 1 "struct Diagnostic with 3 elements")
  | [kind, message] => do .ok ⟨← DiagnosticKind.ofJson kind, ← textOf message, none⟩
  | kind :: message :: style :: rest => do
    let diagnostic : Diagnostic :=
      ⟨← DiagnosticKind.ofJson kind, ← textOf message, ← styleOf style⟩
    if rest.isEmpty then .ok diagnostic
    else .error (.invalidLength (rest.length + 3) "fewer elements in array")

/-- The diagnostic that a value describes. -/
def ofJson : Json → Except DecodeError Diagnostic
  | .object fields => ofFields fields
  | .array items => ofItems items
  | other => .error (.invalidType other.describe "struct Diagnostic")

/-- The members of a diagnostic as data, in their fixed order. -/
def members (diagnostic : Diagnostic) : List (String × Json) :=
  [("kind", .string diagnostic.kind.word), ("message", .string diagnostic.message),
    ("style", match diagnostic.style with
      | some style => .string style
      | none => .null)]

/-- The data text of diagnostics. -/
def listText (diagnostics : List Diagnostic) : String :=
  (Json.array (diagnostics.map fun diagnostic => .object diagnostic.members)).compact

end Diagnostic

end Runbook
