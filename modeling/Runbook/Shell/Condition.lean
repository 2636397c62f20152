import Runbook.FileTree
import Runbook.Machine.Numeral

/-! # Conditions

A condition is about files, about texts or about integers. What a word means depends on the words around
it, since an operator may also be a text that is looked at.

* **`Condition.Fault`** — why words are no condition.
* **`Condition.holds`** — whether the condition that words write holds. -/

namespace Runbook.Shell.Condition

/-- The kinds of operators. -/
inductive Kind where
  /-- It stands before a text. -/
  | unary
  /-- It stands between two texts. -/
  | binary
  /-- It stands between or before conditions. -/
  | logical
  deriving DecidableEq, Repr

/-- Why words are no condition. -/
inductive Fault where
  /-- An operator lacks a text. -/
  | argument (operator : String)
  /-- A parenthesis is not closed. -/
  | parenthesis
  /-- Something stands where nothing can. -/
  | unexpected (word : String)
  /-- A text is no number. -/
  | number (text : String)
  deriving DecidableEq, Repr

/-- The wording of a fault. -/
def Fault.message : Fault → String
  | .argument operator => operator ++ ": argument expected"
  | .parenthesis => "closing paren expected"
  | .unexpected word => if word.isEmpty then "unexpected operator" else word ++ ": unexpected operator"
  | .number text => "Illegal number: " ++ text

/-- The kind of an operator. -/
def kind? (word : String) : Option Kind :=
  if ["-r", "-w", "-x", "-e", "-f", "-d", "-c", "-b", "-p", "-u", "-g", "-k", "-s", "-t", "-z", "-n",
      "-h", "-O", "-G", "-L", "-S"].contains word then some .unary
  else if ["=", "!=", "<", ">", "-eq", "-ne", "-ge", "-gt", "-le", "-lt", "-nt", "-ot",
      "-ef"].contains word then some .binary
  else if ["!", "-a", "-o", "(", ")"].contains word then some .logical
  else none

/-- What the first of several words is. -/
inductive Token where
  /-- There is no word. -/
  | ending
  /-- A text. -/
  | text
  /-- An operator. -/
  | operator (word : String) (kind : Kind)
  deriving DecidableEq, Repr

/-- Whether an operator that stands before such words is a text itself. -/
def isText : List String → Bool
  | [] => true
  | [_] => false
  | word :: _ => kind? word == some .binary

/-- What the first of several words is. -/
def token : List String → Token
  | [] => .ending
  | word :: rest =>
    match kind? word with
    | none => .text
    | some kind =>
      if (kind == .unary && isText rest) || (word = "(" && rest.isEmpty) then .text
      else .operator word kind

/-- Where a condition is evaluated. -/
structure Site where
  /-- The files. -/
  tree : FileTree
  /-- The working directory. -/
  base : Place

/-- The integer that a text writes. -/
def integer (text : String) : Except Fault Int :=
  match Numeral.whole? .ten text with
  | some n => .ok n
  | none => .error (.number text)

/-- Whether what a path leads to passes a test. -/
def file (site : Site) (operator path : String) : Bool :=
  match site.tree.find site.base path with
  | .error _ => false
  | .ok (_, node) =>
    match operator, node with
    | "-e", _ | "-r", _ | "-w", _ | "-O", _ | "-G", _ => true
    | "-d", .directory | "-x", .directory | "-s", .directory => true
    | "-f", .file .. | "-f", .program _ => true
    | "-x", .file runnable _ => runnable
    | "-x", .program _ | "-s", .program _ => true
    | "-s", .file _ content => !content.isEmpty
    | "-c", .device _ => true
    | _, _ => false

/-- Whether a text passes the test of an operator before it. -/
def unary (site : Site) (operator text : String) : Except Fault Bool :=
  match operator with
  | "-z" => .ok text.isEmpty
  | "-n" => .ok (!text.isEmpty)
  | "-t" => do
    let _ ← integer text
    .ok false
  | _ => .ok (file site operator text)

/-- Whether two texts pass the test of an operator between them. -/
def binary (site : Site) (operator a b : String) : Except Fault Bool := do
  match operator with
  | "=" => .ok (a == b)
  | "!=" => .ok (a != b)
  | "<" => .ok (decide (a < b))
  | ">" => .ok (decide (b < a))
  | "-eq" => .ok ((← integer a) == (← integer b))
  | "-ne" => .ok ((← integer a) != (← integer b))
  | "-ge" => .ok (decide ((← integer a) ≥ (← integer b)))
  | "-gt" => .ok (decide ((← integer a) > (← integer b)))
  | "-le" => .ok (decide ((← integer a) ≤ (← integer b)))
  | "-lt" => .ok (decide ((← integer a) < (← integer b)))
  | "-ef" =>
    match site.tree.find site.base a, site.tree.find site.base b with
    | .ok (first, _), .ok (second, _) => .ok (first == second)
    | _, _ => .ok false
  | _ => .ok false

mutual

/-- Whether one of several conditions holds. Each of these functions is given what the first word is,
and gives the words from the last one on that it has looked at. -/
def disjunction (site : Site) : (fuel : Nat) → (found : Bool) → Token → List String →
    Except Fault (Bool × List String)
  | 0, _, _, _ => .error .parenthesis
  | fuel + 1, found, first, words => do
    let (holds, words) ← conjunction site fuel true first words
    if token (words.drop 1) = .operator "-o" .logical then
      let rest := words.drop 2
      disjunction site fuel (found || holds) (token rest) rest
    else .ok (found || holds, words)

/-- Whether several conditions all hold. -/
def conjunction (site : Site) : (fuel : Nat) → (found : Bool) → Token → List String →
    Except Fault (Bool × List String)
  | 0, _, _, _ => .error .parenthesis
  | fuel + 1, found, first, words => do
    let (holds, words) ← negation site fuel first words
    if token (words.drop 1) = .operator "-a" .logical then
      let rest := words.drop 2
      conjunction site fuel (found && holds) (token rest) rest
    else .ok (found && holds, words)

/-- Whether a condition does not hold, or whether one holds. -/
def negation (site : Site) : (fuel : Nat) → Token → List String →
    Except Fault (Bool × List String)
  | 0, _, _ => .error .parenthesis
  | fuel + 1, first, words => do
    if first = .operator "!" .logical then
      let next := token (words.drop 1)
      let (holds, words) ← negation site fuel next (if next = .ending then words else words.drop 1)
      .ok (!holds, words)
    else primary site fuel first words

/-- Whether a test holds. -/
def primary (site : Site) : (fuel : Nat) → Token → List String →
    Except Fault (Bool × List String)
  | 0, _, _ => .error .parenthesis
  | fuel + 1, first, words =>
    match first with
    | .ending => .ok (false, words)
    | .operator "(" _ => do
      let rest := words.drop 1
      if token rest = .operator ")" .logical then .ok (false, rest)
      else
        let (holds, words) ← disjunction site fuel false (token rest) rest
        let rest := words.drop 1
        if token rest = .operator ")" .logical then .ok (holds, rest) else .error .parenthesis
    | .operator operator .unary => do
      match words.drop 1 with
      | [] => .error (.argument operator)
      | text :: rest => .ok (← unary site operator text, text :: rest)
    | _ => do
      match token (words.drop 1) with
      | .operator operator .binary =>
        match words.drop 2 with
        | [] => .error (.argument operator)
        | text :: rest => .ok (← binary site operator (words.headD "") text, text :: rest)
      | _ => .ok (!(words.headD "").isEmpty, words)

end

/-- Whether the condition that words write holds; `first` is what the first word is. -/
def whole (site : Site) (first : Token) (words : List String) : Except Fault Bool := do
  match ← disjunction site (4 * words.length + 8) false first words with
  | (_, word :: _ :: _) => .error (.unexpected word)
  | (holds, _) => .ok holds

/-- Whether the condition that words write holds. Few words have a meaning of their own: an operator
in the middle of three counts most, then parentheses around all, and then a negation. -/
def holds (site : Site) : (words : List String) → Except Fault Bool
  | [] => .ok false
  | [a, b, c] =>
    if kind? b == some .binary then whole site .text [a, b, c]
    else if a = "(" ∧ c = ")" then whole site (token [b]) [b]
    else if a = "!" then (!·) <$> whole site (token [b, c]) [b, c]
    else whole site (token [a, b, c]) [a, b, c]
  | [a, b, c, d] =>
    if a = "(" ∧ d = ")" then whole site (token [b, c]) [b, c]
    else if a = "!" then
      -- a second negation at the start of three words does not count
      (!·) <$> (if kind? c == some .binary then whole site .text [b, c, d]
        else if b = "(" ∧ d = ")" then whole site (token [c]) [c]
        else if b = "!" then whole site (token [c, d]) [c, d]
        else whole site (token [b, c, d]) [b, c, d])
    else whole site (token [a, b, c, d]) [a, b, c, d]
  | words => whole site (token words) words

end Runbook.Shell.Condition
