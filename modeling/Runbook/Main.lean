import Runbook.Cli.Perform
import Runbook.Machine.Basic

/-! # The program

The command line as a program. Steps run on a machine in memory, into which the files that the
arguments name are copied; nothing else is touched. -/

open Runbook

/-- The entries of a block of environment variables. -/
def environmentEntries (block : String) : List (String × String) :=
  (block.splitOn "\x00").filterMap fun entry =>
    match Cli.cutAtEquals entry.toList with
    | (_, none) => none
    | (name, some value) => some (String.ofList name, String.ofList value)

/-- The environment variables of this process. -/
def environmentVariables : IO (List (String × String)) := do
  try
    let block ← IO.FS.readBinFile "/proc/self/environ"
    return environmentEntries ((Utf8.text? block.toList).getD "")
  catch _ => return []

/-- Copies a file, if it can be read, to a machine. -/
def copyFile (machine : Machine) (path : String) : IO Machine := do
  try
    let content ← IO.FS.readBinFile path
    return machine.addBytes path false content.toList
  catch _ => return machine

/-- Copies files to a machine. -/
def copyFiles (machine : Machine) : List String → IO Machine
  | [] => return machine
  | path :: rest => do copyFiles (← copyFile machine path) rest

/-- The paths of the files that arguments name. -/
def namedFiles (arguments : List String) : List String :=
  match Cli.Request.ofArguments arguments with
  | .ok request => request.files
  | .error _ => []

/-- Carries out what the arguments ask for. -/
def main (arguments : List String) : IO UInt32 := do
  let bindings ← environmentVariables
  let machine := bindings.foldl (fun machine (name, value) => machine.setVariable name value)
    Machine.standard
  let machine ← copyFiles machine (namedFiles arguments)
  let (outcome, machine) :=
    Cli.respond Machine.host (Environment.ofList bindings) arguments machine
  IO.print outcome.stdout
  IO.eprint (Cli.joinLines machine.notes)
  return UInt32.ofNat outcome.code
