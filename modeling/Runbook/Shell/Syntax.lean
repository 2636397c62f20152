/-! # Shell commands

The commands of a shell script. All texts are octet texts.

* **`WordPart`**, **`Word`** — what the words of a command are made of before they are expanded.
* **`Redirection`** — where a command reads and writes.
* **`ShellCommand`** — a command. -/

namespace Runbook.Shell

mutual

/-- A part of a word. -/
inductive WordPart where
  /-- Text; what is quoted stands for itself. -/
  | text (text : String) (quoted : Bool)
  /-- The value of a parameter. -/
  | parameter (name : String) (change : ParameterChange) (quoted : Bool)
  /-- What a command writes. -/
  | output (command : Option ShellCommand) (quoted : Bool)
  /-- The value of an arithmetic expression. -/
  | arithmetic (expression : List WordPart) (quoted : Bool)

/-- What is done with the value of a parameter. -/
inductive ParameterChange where
  /-- Nothing. -/
  | none
  /-- Another word takes its place if it is unset or, perhaps, empty. -/
  | otherwise (orEmpty : Bool) (word : List WordPart)
  /-- The same, and the parameter gets that value. -/
  | assign (orEmpty : Bool) (word : List WordPart)
  /-- Another word takes its place unless it is unset or, perhaps, empty. -/
  | instead (orEmpty : Bool) (word : List WordPart)
  /-- The script ends with a complaint if it is unset or, perhaps, empty. -/
  | demand (orEmpty : Bool) (complaint : List WordPart)
  /-- What matches a pattern is cut off at the front or at the end. -/
  | cut (front longest : Bool) (pattern : List WordPart)
  /-- Another word follows it, and nothing behind that counts. -/
  | before (word : List WordPart)
  /-- Its length takes its place. -/
  | length
  /-- What is asked for is not known. -/
  | unknown

/-- What becomes of a descriptor. -/
inductive RedirectionTarget where
  /-- It writes to a file. -/
  | write (path : List WordPart)
  /-- It writes to a file that may be there. -/
  | clobber (path : List WordPart)
  /-- It writes behind what is in a file. -/
  | append (path : List WordPart)
  /-- It reads a file. -/
  | read (path : List WordPart)
  /-- It reads and writes a file. -/
  | update (path : List WordPart)
  /-- It is what another descriptor is. -/
  | copy (descriptor : Nat)
  /-- It is what the descriptor is that a word names. -/
  | copyNamed (descriptor : List WordPart)
  /-- It is closed. -/
  | close
  /-- It reads the here-document of a number. -/
  | document (number : Nat)

/-- A redirection of a descriptor. -/
inductive Redirection where
  | mk (descriptor : Nat) (target : RedirectionTarget)

/-- A command of a script. -/
inductive ShellCommand where
  /-- A program with its arguments, in a line of the script. -/
  | simple (line : Nat) (assignments : List (String × List WordPart)) (words : List (List WordPart))
      (redirections : List Redirection)
  /-- Commands each of which reads what the one before it writes. -/
  | pipeline (commands : List ShellCommand)
  /-- A command whose success is turned round. -/
  | negation (command : ShellCommand)
  /-- Two commands, the second of which runs if the first succeeds. -/
  | both (first second : ShellCommand)
  /-- Two commands, the second of which runs if the first fails. -/
  | either (first second : ShellCommand)
  /-- Two commands, one after the other. -/
  | sequence (first second : ShellCommand)
  /-- A command that runs if a condition succeeds, and perhaps one that runs otherwise. -/
  | branch (condition success : ShellCommand) (failure : Option ShellCommand)
  /-- A command that runs as long as a condition succeeds, or as long as it fails. -/
  | loop (untilSuccess : Bool) (condition body : ShellCommand)
  /-- A command that runs for each word of a list. -/
  | each (line : Nat) (name : String) (words : List (List WordPart)) (body : ShellCommand)
  /-- The command whose patterns match a word. -/
  | choice (line : Nat) (word : List WordPart)
      (cases : List (List (List WordPart) × Option ShellCommand))
  /-- A command with redirections. -/
  | redirected (line : Nat) (body : ShellCommand) (redirections : List Redirection)
  /-- A command that cannot change the shell. -/
  | subshell (line : Nat) (body : ShellCommand) (redirections : List Redirection)
  /-- A command for whose end nobody waits. -/
  | background (line : Nat) (command : ShellCommand)
  /-- A name for a command. -/
  | function (line : Nat) (name : String) (body : ShellCommand)

end

/-- A word before it is expanded. -/
abbrev Word := List WordPart

namespace Redirection

/-- The descriptor that is redirected. -/
def descriptor : Redirection → Nat
  | .mk descriptor _ => descriptor

/-- What becomes of it. -/
def target : Redirection → RedirectionTarget
  | .mk _ target => target

end Redirection

namespace Word

/-- All arguments, each as a word of its own. -/
def arguments : Word := [.parameter "@" .none true]

/-- The text of a word, and whether all of it is text without quotes. -/
def plain? : Word → Option String
  | [.text text false] => some text
  | _ => none

end Word

end Runbook.Shell
