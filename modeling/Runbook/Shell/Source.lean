import Runbook.Shell.Syntax
import Runbook.Text.Blank

/-! # Scripts that are being read

* **`SyntaxError`**, **`ScriptFault`** — why a text is no script, and where.
* **`Token`** — what a script is made of.
* **`Source`** — a script of which some has been read.
* **`Parse`** — a step of reading. -/

namespace Runbook.Shell

/-- A token of a script. -/
inductive Token where
  /-- A word. -/
  | word (parts : Word)
  /-- An operator. -/
  | operator (text : String)
  /-- A word that is reserved where it stands. -/
  | reserved (text : String)
  /-- A redirection of a descriptor by an operator, which lacks its target. -/
  | redirection (descriptor : Option Nat) (operator : String)
  /-- The end of a line. -/
  | newline
  /-- The end of the script. -/
  | ending

namespace Token

/-- The name of a token in complaints. -/
def name : Token → String
  | .word _ => "word"
  | .operator text | .reserved text => "\"" ++ text ++ "\""
  | .redirection .. => "redirection"
  | .newline => "newline"
  | .ending => "end of file"

/-- Whether a token ends a list of commands. -/
def endsList : Token → Bool
  | .operator text => text = ")" || text = ";;"
  | .reserved text =>
    ["do", "done", "elif", "else", "esac", "fi", "then", "\x7d"].contains text
  | .ending => true
  | _ => false

end Token

/-- Why a text is no script. -/
inductive SyntaxError where
  /-- A quote is not closed. -/
  | openQuote
  /-- A brace is not closed. -/
  | openBrace
  /-- An arithmetic expression is not closed. -/
  | openArithmetic
  /-- A backquote is not closed. -/
  | openBackquote
  /-- A token cannot stand where it does; another one should, if it is known which. -/
  | unexpected (token : String) (expected : Option String)
  /-- The variable of a loop is none. -/
  | badLoopVariable
  /-- The name of a function is none. -/
  | badFunctionName
  /-- A descriptor is none. -/
  | badDescriptor
  /-- Commands nest too deep. -/
  | tooDeep
  deriving DecidableEq, Repr

/-- The wording of an error. -/
def SyntaxError.message : SyntaxError → String
  | .openQuote => "Syntax error: Unterminated quoted string"
  | .openBrace => "Syntax error: Missing '\x7d'"
  | .openArithmetic => "Syntax error: Missing '))'"
  | .openBackquote => "Syntax error: EOF in backquote substitution"
  | .unexpected token none => "Syntax error: " ++ token ++ " unexpected"
  | .unexpected token (some expected) =>
    "Syntax error: " ++ token ++ " unexpected (expecting " ++ expected ++ ")"
  | .badLoopVariable => "Syntax error: Bad for loop variable"
  | .badFunctionName => "Syntax error: Bad function name"
  | .badDescriptor => "Syntax error: Bad fd number"
  | .tooDeep => "Syntax error: nested too deep"

/-- An error in a line of a script. -/
structure ScriptFault where
  /-- The line. -/
  line : Nat
  /-- The error. -/
  error : SyntaxError
  deriving DecidableEq, Repr

/-- A here-document that has been announced. -/
structure Announcement where
  /-- Its number. -/
  number : Nat
  /-- The line that ends it. -/
  mark : String
  /-- Whether nothing in it is expanded. -/
  quoted : Bool
  /-- Whether tabs at the start of its lines do not count. -/
  stripped : Bool
  deriving DecidableEq, Repr

/-- An alias whose text is being read. -/
structure OpenAlias where
  /-- The name. -/
  name : String
  /-- How many characters stand behind its text. -/
  behind : Nat
  /-- Whether the word behind it may be an alias as well. -/
  goesOn : Bool
  deriving DecidableEq, Repr

/-- A script of which some has been read. -/
structure Source where
  /-- What is left. -/
  rest : List Char
  /-- The number of the line. -/
  line : Nat
  /-- The token that is looked at again. -/
  returned : Option Token
  /-- The here-documents that have been announced. -/
  announced : List Announcement
  /-- The here-documents that have been read, by their numbers. -/
  documents : Array Word
  /-- What names stand for. -/
  aliases : List (String × String)
  /-- The aliases whose texts are being read, the innermost first. -/
  openAliases : List OpenAlias

namespace Source

/-- A text of which nothing has been read. -/
def ofText (text : List Char) : Source := ⟨text, 1, none, [], #[], [], []⟩

end Source

/-- A step of reading a script. -/
abbrev Parse := StateT Source (Except ScriptFault)

namespace Parse

/-- Fails in the current line. -/
def fail {α : Type} (error : SyntaxError) : Parse α := do
  throw ⟨(← get).line, error⟩

/-- The next character, if there is one. -/
def peek? : Parse (Option Char) := do pure (← get).rest.head?

/-- Passes over the next character. -/
def skip : Parse Unit :=
  modify fun source =>
    match source.rest with
    | [] => source
    | c :: rest => { source with rest, line := if c == '\n' then source.line + 1 else source.line }

/-- A text behind all backslashes that join it with the next line, and how many there are. -/
def dropJoints : List Char → List Char × Nat
  | '\\' :: '\n' :: rest =>
    let (rest, count) := dropJoints rest
    (rest, count + 1)
  | rest => (rest, 0)

/-- Joins the line with the next one if it ends in a backslash here. -/
def joinLines : Parse Unit :=
  modify fun source =>
    let (rest, count) := dropJoints source.rest
    { source with rest, line := source.line + count }

/-- The next character, lines being joined. -/
def peekJoined? : Parse (Option Char) := do
  joinLines
  peek?

/-- Passes over the next character if it is the given one, lines being joined. -/
def accept (c : Char) : Parse Bool := do
  if (← peekJoined?) == some c then
    skip
    pure true
  else pure false

/-- The characters at the start that pass a test, which are passed over; lines are joined. -/
def takeWhile (test : Char → Bool) : (fuel : Nat) → Parse (List Char)
  | 0 => pure []
  | fuel + 1 => do
    match ← peekJoined? with
    | some c =>
      if test c then do
        skip
        pure (c :: (← takeWhile test fuel))
      else pure []
    | none => pure []

end Parse

end Runbook.Shell
