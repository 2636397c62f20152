import Runbook.Yaml.Cursor

/-! # YAML tokens

The tokens of a YAML text make its structure explicit.

* **`Token`** — punctuation, names and scalars, with marks where a block collection begins and ends.
* **`Lexeme`** — a token in its place. -/

namespace Runbook.Yaml

/-- A token of a YAML text. -/
inductive Token where
  /-- The directive that gives the version of the language. -/
  | version (major minor : Nat)
  /-- The directive that lets a handle abbreviate the beginning of tags. -/
  | abbreviation (handle expansion : String)
  /-- The line `---`. -/
  | documentStart
  /-- The line `...`. -/
  | documentEnd
  /-- The end of the text. -/
  | streamEnd
  /-- A block sequence begins. -/
  | blockSequence
  /-- A block mapping begins. -/
  | blockMapping
  /-- A block collection ends. -/
  | blockEnd
  /-- An opening bracket. -/
  | sequenceOpen
  /-- A closing bracket. -/
  | sequenceClose
  /-- An opening brace. -/
  | mappingOpen
  /-- A closing brace. -/
  | mappingClose
  /-- The dash before an item of a block sequence. -/
  | dash
  /-- The comma between the entries of a collection in brackets or braces. -/
  | comma
  /-- A key follows. -/
  | key
  /-- The value of a key follows. -/
  | value
  /-- The name of an earlier node that stands here again. -/
  | alias (name : String)
  /-- A name for the node that follows. -/
  | anchor (name : String)
  /-- The tag of the node that follows, after the abbreviation that begins it. -/
  | tag (handle suffix : String)
  /-- A scalar; a plain one stands without quotes and is no block of lines. -/
  | scalar (plain : Bool) (text : String)
  deriving DecidableEq, Repr

/-- A token in its place. -/
structure Lexeme where
  /-- The token. -/
  token : Token
  /-- Where it begins. -/
  start : Mark
  /-- Where reading goes on behind it. -/
  stop : Mark
  deriving DecidableEq, Repr

end Runbook.Yaml
