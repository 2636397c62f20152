import Runbook.Machine.Numeral

/-! # Signals

* **`Signal.name?`**, **`Signal.number?`** — the names of signals and their numbers.
* **`Signal.isHarmless`** — whether a signal does nothing to a program that does not wait for it.
* **`Signal.description`** — a signal in words.
* **`Ended`** — how a program ended. -/

namespace Runbook

namespace Signal

/-- The names of the signals, in the order of their numbers from one on. -/
def names : List String :=
  ["HUP", "INT", "QUIT", "ILL", "TRAP", "ABRT", "BUS", "FPE", "KILL", "USR1", "SEGV", "USR2", "PIPE",
    "ALRM", "TERM", "16", "CHLD", "CONT", "STOP", "TSTP", "TTIN", "TTOU", "URG", "XCPU", "XFSZ",
    "VTALRM", "PROF", "WINCH", "IO", "PWR", "SYS"]

/-- How many numbers there are for signals, with the one that is no signal. -/
def count : Nat := 65

/-- The name of a number. The number that is no signal stands for the end of a shell. -/
def name? (number : Nat) : Option String :=
  if number = 0 then some "EXIT"
  else if number ≤ names.length then names[number - 1]?
  else if number < 34 then some (toString number)
  else if number = 34 then some "RTMIN"
  else if number ≤ 49 then some ("RTMIN+" ++ toString (number - 34))
  else if number ≤ 63 then some ("RTMAX-" ++ toString (64 - number))
  else if number = 64 then some "RTMAX"
  else none

/-- The number that a text writes, if it is one of a signal or none. -/
def written? (text : String) : Option Nat :=
  if text.isEmpty || !text.toList.all Char.isDigit then none
  else
    let number := Escape.number 10 text.toList
    if number < count then some number else none

/-- The number of a signal that a text writes or names; a name must be one of a number from `least`
on. -/
def number? (least : Nat) (text : String) : Option Nat :=
  (written? text).or ((List.range count).find? fun number =>
    least ≤ number && (name? number).any fun name => name.toUpper = text.toUpper)

/-- Whether a signal does nothing to a program that does not wait for it. -/
def isHarmless (number : Nat) : Bool := [17, 18, 19, 20, 21, 22, 23, 28].contains number

/-- A signal in words. -/
def description (number : Nat) : String :=
  let words := ["Hangup", "Interrupt", "Quit", "Illegal instruction", "Trace/breakpoint trap",
    "Aborted", "Bus error", "Floating point exception", "Killed", "User defined signal 1",
    "Segmentation fault", "User defined signal 2", "Broken pipe", "Alarm clock", "Terminated",
    "Stack fault", "Child exited", "Continued", "Stopped (signal)", "Stopped", "Stopped (tty input)",
    "Stopped (tty output)", "Urgent I/O condition", "CPU time limit exceeded",
    "File size limit exceeded", "Virtual timer expired", "Profiling timer expired", "Window changed",
    "I/O possible", "Power failure", "Bad system call"]
  match if number = 0 then none else words[number - 1]? with
  | some text => text
  | none =>
    if number < 34 then "Unknown signal " ++ toString number
    else "Real-time signal " ++ toString (number - 34)

/-- Whether a shell says nothing when a signal ends a program. -/
def isQuiet (number : Nat) : Bool := number = 2 || number = 13

end Signal

/-- How a program ended. -/
inductive Ended where
  /-- With a code. -/
  | code (code : Nat)
  /-- By a signal. -/
  | signal (number : Nat)
  deriving DecidableEq, Repr

/-- The exit code that a shell sees. -/
def Ended.status : Ended → Nat
  | .code n => n % 256
  | .signal number => 128 + number

end Runbook
