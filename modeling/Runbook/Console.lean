import Runbook.Environment
import Runbook.Pipeline.Sink

/-! # Printing on a console

* **`Console.paint?`** — a message in a style, as a terminal wants it.
* **`Console.sink`** — prints each message as a line of its own and rejects styles that it does not
  know. -/

namespace Runbook.Console

/-- The colours, each at the position that is its number. -/
def colours : List String :=
  ["black", "dark_red", "dark_green", "dark_yellow", "dark_blue", "dark_magenta", "dark_cyan", "grey",
    "dark_grey", "red", "green", "yellow", "blue", "magenta", "cyan", "white"]

/-- The code that sets a colour; without colours it names none. -/
def code (coloured : Bool) (parameters : String) : String :=
  "\x1b[" ++ (if coloured then parameters else "") ++ "m"

/-- The code that takes a colour back. -/
def plain (coloured : Bool) : String := code coloured "39"

/-- The lower case of a character, where that is an ASCII character. Beside the capital letters of
ASCII only the Kelvin sign has one. -/
def lowerChar (c : Char) : Char := if c = '\u212a' then 'k' else c.toLower

/-- The code that begins a style. -/
def style? (coloured : Bool) (name : String) : Option String :=
  let name := String.ofList (name.toList.map lowerChar)
  if name = "reset" then some (plain coloured)
  else (colours.idxOf? name).map fun number => code coloured ("38;5;" ++ toString number)

/-- A line in a style, if there is such a style. -/
def paint? (coloured : Bool) (message : String) : (style : Option String) → Option String
  | none => some (message ++ "\n")
  | some style =>
    (style? coloured style).map fun start => start ++ message ++ plain coloured ++ "\n"

/-- Prints messages, in colours or not; what has been printed so far is what it remembers. -/
def sink (coloured : Bool) : Sink String where
  print message style printed :=
    match paint? coloured message style with
    | some line => (.ok (), printed ++ line)
    | none => (.error ("unsupported print style '" ++ style.getD "" ++ "'"), printed)

/-- The environment variable that turns colours off, unless it is empty. -/
def plainVariable : String := "NO_COLOR"

/-- Whether an environment lets messages be coloured. -/
def isColoured (environment : Environment) : Bool :=
  ((environment.value? plainVariable).getD "").isEmpty

/-- Accepts every message and prints none. -/
def silent : Sink String where
  print _ _ printed := (.ok (), printed)

end Runbook.Console
