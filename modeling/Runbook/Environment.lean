/-! # Environments

* **`Environment`** — the values of environment variables. -/

namespace Runbook

/-- The values of environment variables; a variable without a value is unset. -/
structure Environment where
  /-- The value of a variable, if it is set. -/
  value? : String → Option String

namespace Environment

/-- The environment in which no variable is set. -/
def empty : Environment := ⟨fun _ => none⟩

instance : Inhabited Environment := ⟨empty⟩

/-- The environment that a list of names and values gives; the last value of a name counts. -/
def ofList (bindings : List (String × String)) : Environment :=
  ⟨fun name => bindings.reverse.lookup name⟩

/-- An environment in which further variables are set. -/
def overlay (environment : Environment) (bindings : List (String × String)) : Environment :=
  ⟨fun name => (bindings.reverse.lookup name).or (environment.value? name)⟩

end Environment

end Runbook
