import Runbook.Operation
import Runbook.Table

/-! # Registries

A registry knows operations by name, and old names that stand for new ones.

* **`Registry`** — the operations and the aliases, each in order of registration.
* **`Registry.resolve?`** — the operation that a name means. An alias comes before an operation of
  the same name, and means the operation of its target only. -/

namespace Runbook

/-- Operations by name, and names that stand for others. -/
structure Registry (ω : Type) where
  /-- The operations. -/
  operations : Table (Operation ω)
  /-- The targets of old names. -/
  aliases : Table String

/-- The operation that a name means. -/
structure Resolved (ω : Type) where
  /-- The name under which the operation is registered. -/
  name : String
  /-- The operation. -/
  operation : Operation ω
  /-- The old name by which it was found, if it was. -/
  oldName : Option String

namespace Registry

variable {ω : Type}

/-- The registry without any names. -/
def empty : Registry ω := ⟨∅, ∅⟩

instance : Inhabited (Registry ω) := ⟨empty⟩

/-- Registers an operation; a later one replaces an earlier one of the same name. -/
def register (registry : Registry ω) (name : String) (operation : Operation ω) : Registry ω :=
  { registry with operations := registry.operations.insert name operation }

/-- Lets an old name stand for a target. -/
def registerAlias (registry : Registry ω) (oldName target : String) : Registry ω :=
  { registry with aliases := registry.aliases.insert oldName target }

/-- The operation that a name means. -/
def resolve? (registry : Registry ω) (name : String) : Option (Resolved ω) :=
  match registry.aliases.get? name with
  | some target =>
    (registry.operations.get? target).map fun operation => ⟨target, operation, some name⟩
  | none => (registry.operations.get? name).map fun operation => ⟨name, operation, none⟩

/-- Whether a name means an operation. -/
def contains (registry : Registry ω) (name : String) : Bool := (registry.resolve? name).isSome

/-- The names of the operations, in order. -/
def names (registry : Registry ω) : List String := registry.operations.keys

end Registry

end Runbook
