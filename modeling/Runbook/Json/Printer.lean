import Runbook.Json.Basic
import Runbook.Decimal.Shortest

/-! # Texts of data trees

* **`Json.compact`** — the text without any blanks between its tokens.
* **`Json.pretty`** — the text with one member or item a line, indented by two spaces a level.
* **`Json.display`** — the text that stands for a value inside other text: strings bare, null
  empty, everything else compact. -/

namespace Runbook

/-- The text of an integer: its digits, after a minus sign when it is negative. -/
def intText (n : Int) : List Char :=
  if n < 0 then '-' :: Binary64.digitsText n.natAbs else Binary64.digitsText n.natAbs

/-- The text of a number. -/
def Number.render : Number → List Char
  | .integer n => intText n
  | .double x => x.render .data

namespace Json

/-- A digit of base sixteen, in lower case. -/
def hexDigit (n : Nat) : Char :=
  if n < 10 then Char.ofNat (48 + n) else Char.ofNat (87 + n)

/-- A character as it is written inside quotes. -/
def escapeChar (c : Char) : List Char :=
  if c = '"' then ['\\', '"']
  else if c = '\\' then ['\\', '\\']
  else if c = '\n' then ['\\', 'n']
  else if c = '\r' then ['\\', 'r']
  else if c = '\t' then ['\\', 't']
  else if c.toNat = 8 then ['\\', 'b']
  else if c.toNat = 12 then ['\\', 'f']
  else if c.toNat < 32 then
    ['\\', 'u', '0', '0', hexDigit (c.toNat / 16), hexDigit (c.toNat % 16)]
  else [c]

/-- A text in quotes. -/
def quote (text : List Char) : List Char := '"' :: (text.flatMap escapeChar ++ ['"'])

mutual

/-- The text of a tree without blanks between its tokens. -/
def compactText : Json → List Char
  | .null => ['n', 'u', 'l', 'l']
  | .bool true => ['t', 'r', 'u', 'e']
  | .bool false => ['f', 'a', 'l', 's', 'e']
  | .number n => n.render
  | .string s => quote s.toList
  | .array items => '[' :: (compactItems items ++ [']'])
  | .object fields => '{' :: (compactFields fields ++ ['}'])

/-- The items of a sequence, separated by commas. -/
def compactItems : List Json → List Char
  | [] => []
  | [item] => compactText item
  | item :: next :: rest => compactText item ++ ',' :: compactItems (next :: rest)

/-- The members of a mapping, separated by commas. -/
def compactFields : List (String × Json) → List Char
  | [] => []
  | [(key, value)] => quote key.toList ++ ':' :: compactText value
  | (key, value) :: next :: rest =>
    quote key.toList ++ ':' :: (compactText value ++ ',' :: compactFields (next :: rest))

end

/-- The text of a tree without blanks between its tokens. -/
def compact (value : Json) : String := String.ofList (compactText value)

/-- A line break and the indentation of a level. -/
def breakLine (level : Nat) : List Char := '\n' :: List.replicate (2 * level) ' '

mutual

/-- The text of a tree whose opening bracket stands on the given level. -/
def prettyText (level : Nat) : Json → List Char
  | .array [] => ['[', ']']
  | .object [] => ['{', '}']
  | .array (item :: rest) =>
    '[' :: (prettyItems (level + 1) (item :: rest) ++ breakLine level ++ [']'])
  | .object (field :: rest) =>
    '{' :: (prettyFields (level + 1) (field :: rest) ++ breakLine level ++ ['}'])
  | .null => compactText .null
  | .bool b => compactText (.bool b)
  | .number n => compactText (.number n)
  | .string s => compactText (.string s)

/-- The items of a sequence, each on a line of its own. -/
def prettyItems (level : Nat) : List Json → List Char
  | [] => []
  | [item] => breakLine level ++ prettyText level item
  | item :: next :: rest =>
    breakLine level ++ prettyText level item ++ ',' :: prettyItems level (next :: rest)

/-- The members of a mapping, each on a line of its own. -/
def prettyFields (level : Nat) : List (String × Json) → List Char
  | [] => []
  | [(key, value)] => breakLine level ++ quote key.toList ++ ':' :: ' ' :: prettyText level value
  | (key, value) :: next :: rest =>
    breakLine level ++ quote key.toList ++ ':' :: ' ' ::
      (prettyText level value ++ ',' :: prettyFields level (next :: rest))

end

/-- The text of a tree with one member or item a line. -/
def pretty (value : Json) : String := String.ofList (prettyText 0 value)

/-- The text that stands for a value inside other text. -/
def display : Json → String
  | .string s => s
  | .null => ""
  | value => value.compact

/-- The word for the type of a value. -/
def kind : Json → String
  | .null => "null"
  | .bool _ => "a boolean"
  | .number _ => "a number"
  | .string _ => "a string"
  | .array _ => "a sequence"
  | .object _ => "a mapping"

end Json

end Runbook
