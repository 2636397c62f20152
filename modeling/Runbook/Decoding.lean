import Runbook.Json.Printer
import Runbook.Text.Printable

/-! # Decoding of mappings

A mapping is decoded into a record of known fields. Its members are looked at in the order of their
keys, and the first offence counts; fields that are missing are noticed only afterwards.

* **`DecodeError`** — the offences.
* **`Shape`** — the values that a field accepts.
* **`Schema`** — the fields of a record; **`Schema.check`** finds the offence of a mapping.
* **`Decoding.text?`**, **`Decoding.flag`**, … — the values of the fields of a checked mapping. -/

namespace Runbook

/-- Why a value cannot be decoded. -/
inductive DecodeError where
  /-- A value has another type than the one expected. -/
  | invalidType (found expected : String)
  /-- A key is none of the known fields. -/
  | unknownField (name : String) (known : List String)
  /-- A word is none of the known ones. -/
  | unknownVariant (name : String) (known : List String)
  /-- A required field is missing. -/
  | missingField (name : String)
  /-- A sequence has another length than the one expected. -/
  | invalidLength (length : Nat) (expected : String)
  /-- A value is of the expected type and yet not one of those expected. -/
  | invalidValue (found expected : String)
  /-- A field is given twice. -/
  | duplicateField (name : String)
  /-- An integer fits no integer type. -/
  | numberOutOfRange
  deriving DecidableEq, Repr

namespace DecodeError

/-- A name between backquotes. -/
def quoteName (name : String) : String := "`" ++ name ++ "`"

/-- The known names, for an error: alone, as a choice of two, or as a list. -/
def choices : List String → String
  | [name] => quoteName name
  | [first, second] => quoteName first ++ " or " ++ quoteName second
  | names => "one of " ++ String.intercalate ", " (names.map quoteName)

/-- The wording of an error. -/
def message : DecodeError → String
  | .invalidType found expected => "invalid type: " ++ found ++ ", expected " ++ expected
  | .unknownField name known =>
    "unknown field " ++ quoteName name ++ ", expected " ++ choices known
  | .unknownVariant name known =>
    "unknown variant " ++ quoteName name ++ ", expected " ++ choices known
  | .missingField name => "missing field " ++ quoteName name
  | .invalidLength length expected =>
    "invalid length " ++ toString length ++ ", expected " ++ expected
  | .invalidValue found expected => "invalid value: " ++ found ++ ", expected " ++ expected
  | .duplicateField name => "duplicate field " ++ quoteName name
  | .numberOutOfRange => "JSON number out of range"

end DecodeError

/-- How an error describes a value that has the wrong type. -/
def Json.describe : Json → String
  | .null => "null"
  | .bool b => "boolean `" ++ (if b then "true" else "false") ++ "`"
  | .number (.integer n) => "integer `" ++ String.ofList (intText n) ++ "`"
  | .number (.double x) => "floating point `" ++ String.ofList (x.render .plain) ++ "`"
  | .string s => "string " ++ Text.quoteVisible s
  | .array _ => "sequence"
  | .object _ => "map"

/-- The values that a field accepts. -/
inductive Shape where
  /-- Any value. -/
  | anything
  /-- A string. -/
  | text
  /-- A string that names a place in the file tree. -/
  | path
  /-- A truth value. -/
  | flag
  /-- A mapping. -/
  | mapping
  deriving DecidableEq, Repr

namespace Shape

/-- The word for the accepted values in an error. -/
def expected : Shape → String
  | .anything => "any value"
  | .text => "a string"
  | .path => "path string"
  | .flag => "a boolean"
  | .mapping => "a map"

/-- Whether a value is accepted. -/
def accepts : Shape → Json → Bool
  | .anything, _ => true
  | .text, .string _ | .path, .string _ => true
  | .flag, .bool _ => true
  | .mapping, .object _ => true
  | _, _ => false

end Shape

/-- A field of a record. -/
structure FieldRule where
  /-- Its key. -/
  name : String
  /-- What it accepts. -/
  shape : Shape
  /-- Whether null is accepted and means that the field is absent. -/
  nullable : Bool
  /-- Whether it must be there. -/
  required : Bool
  deriving DecidableEq, Repr

/-- The fields of a record, in order. -/
abbrev Schema := List FieldRule

namespace Schema

/-- The offence of a value under a key, if it is one. -/
def offence? (schema : Schema) (key : String) (value : Json) : Option DecodeError :=
  match schema.find? fun rule => rule.name == key with
  | none => some (.unknownField key (schema.map FieldRule.name))
  | some rule =>
    if rule.shape.accepts value || (rule.nullable && value == .null) then none
    else some (.invalidType value.describe rule.shape.expected)

/-- The first required field that a mapping lacks. -/
def missing? (schema : Schema) (fields : Fields) : Option DecodeError :=
  (schema.find? fun rule => rule.required && !fields.contains rule.name).map fun rule =>
    .missingField rule.name

/-- The first offence of a mapping: that of a member, or else a missing field. -/
def check (schema : Schema) (fields : Fields) : Except DecodeError Unit :=
  match fields.findSome? fun (key, value) => schema.offence? key value with
  | some e => .error e
  | none =>
    match schema.missing? fields with
    | some e => .error e
    | none => .ok ()

end Schema

namespace Decoding

/-- The string of a field, if it has one. -/
def text? (fields : Fields) (name : String) : Option String :=
  match Fields.get? fields name with
  | some (.string s) => some s
  | _ => none

/-- The truth value of a field, or else `default`. -/
def flag (fields : Fields) (name : String) (default : Bool) : Bool :=
  match Fields.get? fields name with
  | some (.bool b) => b
  | _ => default

/-- The mapping of a field, or else the empty one. -/
def mapping (fields : Fields) (name : String) : Fields :=
  match Fields.get? fields name with
  | some (.object members) => members
  | _ => []

/-- The value of a field, if there is one and it is not null. -/
def value? (fields : Fields) (name : String) : Option Json :=
  match Fields.get? fields name with
  | some .null => none
  | other => other

end Decoding

end Runbook
