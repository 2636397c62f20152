import Runbook.Environment
import Runbook.Json.Parser
import Runbook.Store.Basic
import Runbook.Text.Blank

/-! # Stores behind the environment

One environment variable chooses where secrets are kept. When it chooses the environment itself, each
block and each variable of the store is one environment variable, whose text is a data text or else
stands for itself.

* **`SecretsBackend`** — where secrets are kept, and how that is chosen.
* **`EnvironmentStore`** — the store; entries of the keychain are out of its reach. -/

namespace Runbook

/-- Where secrets are kept. -/
inductive SecretsBackend where
  /-- In the keychain of the operating system. -/
  | keychain
  /-- In environment variables. -/
  | environment
  deriving DecidableEq, Repr

namespace SecretsBackend

/-- The environment variable that chooses the backend. -/
def choiceVariable : String := "RIGGER_SECRETS_BACKEND"

/-- The backend of an environment: the environment itself if the choice is `env`, in any case and
with blanks around it, and else the keychain. -/
def ofEnvironment (environment : Environment) : SecretsBackend :=
  let choice := (environment.value? choiceVariable).getD ""
  if Text.lowerAscii (Text.trimmed choice) = "env" then .environment else .keychain

/-- The name of a backend. -/
def name : SecretsBackend → String
  | .keychain => "keychain"
  | .environment => "environment"

end SecretsBackend

/-- A store that reads the entries of the backend that its environment chooses. -/
structure EnvironmentStore where
  /-- Where the entries are. -/
  backend : SecretsBackend
  /-- The environment that holds them, if it does. -/
  environment : Environment

namespace EnvironmentStore

/-- The store of an environment. -/
def ofEnvironment (environment : Environment) : EnvironmentStore :=
  ⟨SecretsBackend.ofEnvironment environment, environment⟩

/-- A part of the name of an entry: capital ASCII letters and digits, and an underscore for every
other character. -/
def keyPart (text : List Char) : List Char :=
  text.map fun c => if c.isAlphanum then c.toUpper else '_'

/-- The environment variable of an entry: the parts of its name, each after an underscore. -/
def entryVariable (opening : String) (parts : List String) : String :=
  opening ++ String.ofList (parts.flatMap fun part => '_' :: keyPart part.toList)

/-- The environment variable of a block. -/
def blockVariable (type name : String) : String := entryVariable "RIGGER_BLOCK" [type, name]

/-- The environment variable of a variable. -/
def variableVariable (name : String) : String := entryVariable "RIGGER_VARIABLE" [name]

/-- The document of a block: a mapping is one itself, and any other value is the `value` of one. -/
def document : Json → Json
  | .object fields => .object fields
  | value => .object [("value", value)]

/-- The error for an entry of the keychain. -/
def unreachable (reference : String) : StoreError :=
  .keychain reference "no keychain is available"

/-- The reference of a block in the keychain. -/
def blockReference (type name : String) : String :=
  "block/" ++ Text.lowerAscii type ++ "/" ++ name

/-- The document of a block. -/
def readBlock (store : EnvironmentStore) (type name : String) : Except StoreError Json :=
  match store.backend with
  | .keychain => .error (unreachable (blockReference type name))
  | .environment =>
    match store.environment.value? (blockVariable type name) with
    | some text => .ok (document (Json.ofPayload text))
    | none => .error (.blockNotFound type name)

/-- The value of a variable. -/
def readVariable (store : EnvironmentStore) (name : String) : Except StoreError Json :=
  match store.backend with
  | .keychain => .error (unreachable ("variable/" ++ name))
  | .environment =>
    match store.environment.value? (variableVariable name) with
    | some text => .ok (Json.ofPayload text)
    | none => .error (.variableNotFound name)

/-- Writing or removing an entry: the environment is never changed. -/
def change (store : EnvironmentStore) (reference : String) : Except StoreError Unit :=
  match store.backend with
  | .keychain => .error (unreachable reference)
  | .environment => .error (.readOnly store.backend.name)

/-- Writes a block. -/
def storeBlock (store : EnvironmentStore) (type name : String) : Except StoreError Unit :=
  store.change (blockReference type name)

/-- Writes a variable. -/
def storeVariable (store : EnvironmentStore) (name : String) : Except StoreError Unit :=
  store.change ("variable/" ++ name)

/-- The entries as a store. -/
def toStore (store : EnvironmentStore) : Store := ⟨store.readBlock, store.readVariable⟩

end EnvironmentStore

end Runbook
