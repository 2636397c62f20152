import Runbook.Text.Words

/-! # Variables in a command line

`$NAME` and `${NAME}` stand for the value of a variable, `${NAME:-default}` for its value or else the
default. A variable without a value stays as it is written, two dollars are one, and any other
dollar is itself. What is put in is not looked at again.

* **`CommandLine.expand`** — a text with its variables replaced. -/

namespace Runbook.CommandLine

/-- Whether a character may stand in a variable's name. -/
def isVariableChar (c : Char) : Bool := Text.isAlphanumeric c || c == '_'

/-- The text before the first `:-`, and the text after it if there is one. -/
def cutAtDefault : List Char → List Char × Option (List Char)
  | [] => ([], none)
  | ':' :: '-' :: rest => ([], some rest)
  | c :: rest =>
    let (before, after) := cutAtDefault rest
    (c :: before, after)

/-- What stands for `${inside}`. A default needs a name before it. -/
def expandBraced (value? : String → Option String) (inside : List Char) : List Char :=
  let (name, default?) := match cutAtDefault inside with
    | ([], some _) => (inside, none)
    | cut => cut
  match value? (String.ofList name), default? with
  | some value, _ => value.toList
  | none, some text => text
  | none, none => '$' :: '{' :: (inside ++ ['}'])

/-- What stands for `$name`. -/
def expandNamed (value? : String → Option String) (name : List Char) : List Char :=
  match value? (String.ofList name) with
  | some value => value.toList
  | none => '$' :: name

/-- Replaces the variables of a text; `fuel` is at least its length. -/
def expandFrom (value? : String → Option String) : Nat → List Char → List Char
  | 0, text => text
  | _ + 1, [] => []
  | fuel + 1, '$' :: '{' :: rest =>
    match rest.dropWhile (· != '}') with
    | [] => '$' :: '{' :: expandFrom value? fuel rest
    | _ :: after =>
      expandBraced value? (rest.takeWhile (· != '}')) ++ expandFrom value? fuel after
  | fuel + 1, '$' :: '$' :: rest => '$' :: expandFrom value? fuel rest
  | fuel + 1, '$' :: rest =>
    let name := rest.takeWhile isVariableChar
    if name.isEmpty then '$' :: expandFrom value? fuel rest
    else expandNamed value? name ++ expandFrom value? fuel (rest.dropWhile isVariableChar)
  | fuel + 1, c :: rest => c :: expandFrom value? fuel rest

/-- A text with its variables replaced by the values that `value?` knows. -/
def expand (value? : String → Option String) (text : String) : String :=
  let chars := text.toList
  String.ofList (expandFrom value? chars.length chars)

end Runbook.CommandLine
