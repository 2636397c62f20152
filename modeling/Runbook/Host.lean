import Runbook.Text.Utf8

/-! # Hosts

Where steps run: a host starts programs, reads files and has a working directory. What it does may
depend on a state `ω` of its own and change it.

* **`Command`** — a program with its arguments, and where and with which variables it runs.
* **`Finished`** — what a program leaves when it ends.
* **`Host`** — what steps ask of a host. -/

namespace Runbook

/-- A program that is to run. -/
structure Command where
  /-- Its name, or the path of its file. -/
  program : String
  /-- Its arguments. -/
  arguments : List String
  /-- The directory that it runs in, if not the working directory. -/
  directory : Option String
  /-- Environment variables that are set in addition. -/
  bindings : List (String × String)
  deriving DecidableEq, Repr

/-- What a program leaves when it ends. -/
structure Finished where
  /-- What it wrote to its standard output. -/
  stdout : Bytes
  /-- What it wrote to its standard error. -/
  stderr : Bytes
  /-- Its exit code; none if a signal ended it. -/
  code : Option Nat
  deriving DecidableEq, Repr

/-- Why a host cannot do something. -/
inductive HostError where
  /-- A file or directory does not exist. -/
  | missing
  /-- A file must not be used in that way. -/
  | denied
  /-- Something that is used as a directory is none. -/
  | notDirectory
  /-- Something that is used as a file is a directory. -/
  | isDirectory
  /-- A file that is to run is no program. -/
  | notProgram
  /-- A file exists and must not. -/
  | alreadyThere
  /-- A name is too long. -/
  | nameTooLong
  /-- Scripts name one another as interpreters without end. -/
  | tooManyLinks
  /-- A descriptor is not open, or not open for what is done with it. -/
  | badDescriptor
  /-- There is no room for what is written. -/
  | noSpace
  /-- Any other reason, with its wording. -/
  | other (message : String)
  deriving DecidableEq, Repr

namespace HostError

/-- The reason in words. -/
def reason : HostError → String
  | .missing => "No such file or directory"
  | .denied => "Permission denied"
  | .notDirectory => "Not a directory"
  | .isDirectory => "Is a directory"
  | .notProgram => "Exec format error"
  | .alreadyThere => "File exists"
  | .nameTooLong => "File name too long"
  | .tooManyLinks => "Too many levels of symbolic links"
  | .badDescriptor => "Bad file descriptor"
  | .noSpace => "No space left on device"
  | .other message => message

/-- The number by which operating systems know a reason. -/
def number? : HostError → Option Nat
  | .missing => some 2
  | .notProgram => some 8
  | .badDescriptor => some 9
  | .denied => some 13
  | .alreadyThere => some 17
  | .notDirectory => some 20
  | .isDirectory => some 21
  | .noSpace => some 28
  | .nameTooLong => some 36
  | .tooManyLinks => some 40
  | .other _ => none

/-- The wording of an error. -/
def message (error : HostError) : String :=
  match error.number? with
  | some number => error.reason ++ " (os error " ++ toString number ++ ")"
  | none => error.reason

end HostError

/-- Where steps run. -/
structure Host (ω : Type) where
  /-- Starts a program without input and waits for its end. -/
  run : Command → ω → Except HostError Finished × ω
  /-- Whether a path leads to a directory. -/
  isDirectory : (path : String) → ω → Bool
  /-- Makes a directory the working directory. -/
  enter : (path : String) → ω → Except HostError Unit × ω
  /-- The contents of a file. -/
  read : (path : String) → ω → Except HostError Bytes
  /-- Writes a line to the standard error of the whole run. -/
  note : (line : String) → ω → ω

/-- The contents of a file as text, or why they cannot be read. -/
def Host.readText {ω : Type} (host : Host ω) (path : String) (world : ω) : Except String String :=
  match host.read path world with
  | .error error => .error error.message
  | .ok bytes =>
    match Utf8.text? bytes with
    | some text => .ok text
    | none => .error "stream did not contain valid UTF-8"

end Runbook
