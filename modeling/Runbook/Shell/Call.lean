import Runbook.Shell.Expansion
import Runbook.Shell.Lookup

/-! # Calls of commands

* **`Call`** — what is called by the words of a command.
* **`Call.ofFields`** — what words call, as far as they say it.
* **`expandCall`** — the call of a simple command. -/

namespace Runbook.Shell

/-- What is called by the words of a command. -/
structure Call where
  /-- The name of what is called, and its arguments. -/
  words : List String
  /-- Whether it is a command of the shell that is part of the language; none if it is no command of
  the shell that is found before all programs. -/
  special : Option Bool
  /-- Whether it may be a function. -/
  functions : Bool
  /-- The directories in which it is looked for, if not the usual ones. -/
  searchPath : Option String
  /-- Whether its arguments may be assignments. -/
  assigning : Bool
  /-- Whether redirections stay behind it. -/
  replacing : Bool

namespace Call

/-- No words. -/
def nothing : Call := ⟨[], none, true, none, false, false⟩

/-- Whether variables that are set before a call are so only for the call. -/
def isIsolated (call : Call) : Bool := !call.words.isEmpty && call.special != some true

/-- What words behind `command` call. They are left as they are if they ask for something else, and
there is no answer if more words are needed. -/
def behindCommand : (searchPath : Option String) → List String →
    Option (Option (List String × Option String))
  | _, [] => none
  | searchPath, word :: rest =>
    match word.toList with
    | ['-', '-'] => if rest.isEmpty then none else some (some (rest, searchPath))
    | '-' :: c :: letters =>
      if (c :: letters).all (· == 'p') then behindCommand (some defaultPath) rest else some none
    | _ => some (some (word :: rest, searchPath))

/-- What words call, or nothing if more words are needed. -/
def ofFields (isFunction : String → Bool) : (fuel : Nat) → Call → Option Call
  | 0, _ => none
  | fuel + 1, call =>
    match call.words with
    | [] => none
    | name :: arguments =>
      if call.functions && isFunction name then some call
      else if !(specialNames.contains name || regularNames.contains name) then some call
      else
        let call :=
          { call with
            special := call.special.or (some (specialNames.contains name))
            assigning := assigningNames.contains name
            replacing := name = "exec" }
        if name != "command" then some call
        else
          match behindCommand call.searchPath arguments with
          | none => none
          | some none => some call
          | some (some (words, searchPath)) =>
            ofFields isFunction fuel { call with words, searchPath, functions := false }

end Call

/-- A call, with all words that were expanded for it. -/
structure Expanded where
  /-- The call. -/
  call : Call
  /-- The words, with those that only say how to call. -/
  fields : List String

/-- The words that an argument stands for, which may be an assignment. -/
def expandArgument (substitute : ShellCommand → Act Bytes) (assigning : Bool) (word : Word) :
    Act (List String) := do
  match if assigning then Grammar.assignment? word else none with
  | some (name, value) => do
    let text ← expandText substitute .value value
    pure [name ++ "=" ++ text]
  | none => expandFields substitute word

/-- The call that words make, of which some are expanded. -/
def expandCall (substitute : ShellCommand → Act Bytes) : (fields : List String) → List Word →
    Act Expanded
  | fields, words => do
    let session ← get
    let isFunction (name : String) : Bool := (session.functions.lookup name).isSome
    match Call.ofFields isFunction (fields.length + 1) { Call.nothing with words := fields } with
    | some call => do
      let more ← words.mapM (expandArgument substitute call.assigning)
      pure ⟨{ call with words := call.words ++ more.flatten }, fields ++ more.flatten⟩
    | none =>
      match words with
      | word :: words => do
        let found ← expandFields substitute word
        expandCall substitute (fields ++ found) words
      | [] =>
        match fields with
        | [] => pure ⟨Call.nothing, []⟩
        -- nothing is called behind the command that would call it
        | _ => pure ⟨{ Call.nothing with words := fields, special := some false }, fields⟩

end Runbook.Shell
