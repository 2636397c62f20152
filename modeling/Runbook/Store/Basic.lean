import Runbook.Json.Basic

/-! # Reference stores

A store answers references to blocks, which are documents with a type and a name, and to variables.

* **`Store`** — the two questions that a store answers.
* **`StoreError`** — why there is no answer. -/

namespace Runbook

/-- Why a store does not answer. -/
inductive StoreError where
  /-- There is no such block. -/
  | blockNotFound (type name : String)
  /-- There is no such variable. -/
  | variableNotFound (name : String)
  /-- The named backend cannot be written to. -/
  | readOnly (backend : String)
  /-- An entry of the keychain cannot be reached. -/
  | keychain (reference cause : String)
  /-- A store file cannot be read. -/
  | load (path cause : String)
  deriving DecidableEq, Repr

/-- The wording of an error. -/
def StoreError.message : StoreError → String
  | .blockNotFound type name => "block '" ++ type ++ "/" ++ name ++ "' was not found"
  | .variableNotFound name => "variable '" ++ name ++ "' was not found"
  | .readOnly backend => "the " ++ backend ++ " backend is read-only"
  | .keychain reference cause => "keyring error for " ++ reference ++ ": " ++ cause
  | .load path cause => "failed to load reference store from " ++ path ++ ": " ++ cause

/-- A source of blocks and variables. -/
structure Store where
  /-- The document of the block with a type and a name. -/
  readBlock : (type name : String) → Except StoreError Json
  /-- The value of a variable. -/
  readVariable : (name : String) → Except StoreError Json

end Runbook
