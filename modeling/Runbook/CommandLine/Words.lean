import Runbook.Text.Blank

/-! # Words of a command line

A command line is cut at blanks. A backslash keeps the next character from any other meaning and
vanishes together with a line feed; single quotes keep everything up to the next one; double quotes
keep everything but a backslash before one of `"`, `\`, `$`, a backquote and a line feed. Neighbouring
pieces make one word, and a pair of quotes makes a word even if it is empty.

* **`CommandLine.split`** — the words of a command line.
* **`SplitError`** — why a line has no words; positions count the bytes of UTF-8. -/

namespace Runbook

/-- Why a command line cannot be cut into words. -/
inductive SplitError where
  /-- A quote is never closed; `position` counts the bytes before it. -/
  | unterminatedQuote (quote : Char) (position : Nat)
  /-- The line ends in a backslash. -/
  | trailingEscape
  deriving DecidableEq, Repr

/-- The wording of an error. -/
def SplitError.message : SplitError → String
  | .unterminatedQuote quote position =>
    "unterminated " ++ quote.toString ++ " quote starting at byte " ++ toString position
  | .trailingEscape => "command line ends with an unfinished escape"

namespace CommandLine

/-- Whether a backslash inside double quotes takes a character's meaning away. -/
def isQuotable (c : Char) : Bool := c == '"' || c == '\\' || c == '$' || c == '`'

/-- A word with one more character; the characters of a word are held in reverse, and there may be
no word yet. -/
def extend (word : Option (List Char)) (c : Char) : Option (List Char) :=
  some (c :: word.getD [])

/-- The finished word, if there is one. -/
def finish (word : Option (List Char)) : List (List Char) :=
  match word with
  | none => []
  | some reversed => [reversed.reverse]

mutual

/-- Cuts a text outside quotes; `position` counts the bytes before it and `word` is the word that
it goes on with. -/
def splitPlain (word : Option (List Char)) (position : Nat) :
    List Char → Except SplitError (List (List Char))
  | [] => .ok (finish word)
  | '\\' :: [] => .error .trailingEscape
  | '\\' :: c :: rest =>
    if c = '\n' then splitPlain word (position + 2) rest
    else splitPlain (extend word c) (position + 1 + c.utf8Size) rest
  | '\'' :: rest => splitSingle (word.getD []) position (position + 1) rest
  | '"' :: rest => splitDouble (word.getD []) position (position + 1) rest
  | c :: rest =>
    if Text.isBlank c then
      (splitPlain none (position + c.utf8Size) rest).map (finish word ++ ·)
    else splitPlain (extend word c) (position + c.utf8Size) rest

/-- Cuts a text that begins inside single quotes opened at `start`. -/
def splitSingle (word : List Char) (start position : Nat) :
    List Char → Except SplitError (List (List Char))
  | [] => .error (.unterminatedQuote '\'' start)
  | c :: rest =>
    if c = '\'' then splitPlain (some word) (position + 1) rest
    else splitSingle (c :: word) start (position + c.utf8Size) rest

/-- Cuts a text that begins inside double quotes opened at `start`. -/
def splitDouble (word : List Char) (start position : Nat) :
    List Char → Except SplitError (List (List Char))
  | [] => .error (.unterminatedQuote '"' start)
  | '"' :: rest => splitPlain (some word) (position + 1) rest
  | '\\' :: c :: rest =>
    if c = '\n' then splitDouble word start (position + 2) rest
    else if isQuotable c then splitDouble (c :: word) start (position + 2) rest
    else splitDouble ('\\' :: word) start (position + 1) (c :: rest)
  | c :: rest => splitDouble (c :: word) start (position + c.utf8Size) rest

end

/-- The words of a command line. -/
def splitText (line : List Char) : Except SplitError (List (List Char)) := splitPlain none 0 line

/-- The words of a command line. -/
def split (line : String) : Except SplitError (List String) :=
  (splitText line.toList).map fun words => words.map String.ofList

end CommandLine

end Runbook
