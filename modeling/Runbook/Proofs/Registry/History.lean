import Runbook.Proofs.Table
import Runbook.Registry

/-! # What a registry keeps of its registrations

A registry comes about by registrations of operations and of old names. What a name means in the end
is told here by these registrations alone.

* **`Registry.Change`** — the registration of an operation, or of an old name for a target.
* **`Registry.registerAll`** — the registry after a history of registrations.
* **`Registry.operations_registerAll`**, **`Registry.aliases_registerAll`** — operations and old names
  are kept apart, so neither kind of registration touches what the other has left.
* **`Registry.resolve?_of_target`**, **`Registry.resolve?_of_not_alias`** — what a name means that is
  an old one, and one that is not.
* **`Registry.registerAll_history`** — names, lists and the freedom to interleave registrations. -/

namespace Runbook

/-- A registration. -/
inductive Registry.Change (ω : Type) where
  /-- An operation is registered under a name. -/
  | register (name : String) (operation : Operation ω)
  /-- An old name comes to stand for a target. -/
  | registerAlias (oldName target : String)

variable {ω : Type}

namespace Registry.Change

/-- The names and operations that have been registered, in order. -/
def operationsIn (history : List (Change ω)) : List (String × Operation ω) :=
  history.filterMap fun
    | .register name operation => some (name, operation)
    | .registerAlias _ _ => none

/-- The old names and targets that have been registered, in order. -/
def aliasesIn (history : List (Change ω)) : List (String × String) :=
  history.filterMap fun
    | .register _ _ => none
    | .registerAlias oldName target => some (oldName, target)

/-- **The operations that have been registered under a name**, in order. -/
def operationsUnder (history : List (Change ω)) (name : String) : List (Operation ω) :=
  Table.valuesUnder (operationsIn history) name

/-- **The targets that a name has been registered for**, in order. -/
def targetsUnder (history : List (Change ω)) (name : String) : List String :=
  Table.valuesUnder (aliasesIn history) name

end Registry.Change

namespace Registry

open Change

/-- The registry after one more registration. -/
def carryOut (registry : Registry ω) : Change ω → Registry ω
  | .register name operation => registry.register name operation
  | .registerAlias oldName target => registry.registerAlias oldName target

/-- The registry after registrations have been made, one after another. -/
def registerAll (registry : Registry ω) (history : List (Change ω)) : Registry ω :=
  history.foldl carryOut registry

/-! ## The two tables -/

/-- **Operations are found where operations have been registered**, whatever the old names are. -/
theorem operations_registerAll (registry : Registry ω) (history : List (Change ω)) :
    (registry.registerAll history).operations =
      registry.operations.insertAll (operationsIn history) := by
  induction history generalizing registry with
  | nil => rfl
  | cons change history ih =>
    cases change with
    | register name operation => exact ih (registry.register name operation)
    | registerAlias oldName target => exact ih (registry.registerAlias oldName target)

/-- **Old names are those that have been registered as such**, whatever the operations are. -/
theorem aliases_registerAll (registry : Registry ω) (history : List (Change ω)) :
    (registry.registerAll history).aliases = registry.aliases.insertAll (aliasesIn history) := by
  induction history generalizing registry with
  | nil => rfl
  | cons change history ih =>
    cases change with
    | register name operation => exact ih (registry.register name operation)
    | registerAlias oldName target => exact ih (registry.registerAlias oldName target)

/-- The operation behind a name is the last one that has been registered under it. -/
theorem get?_operations_registerAll (history : List (Change ω)) (name : String) :
    ((empty : Registry ω).registerAll history).operations.get? name =
      (operationsUnder history name).getLast? := by
  rw [operations_registerAll]
  exact Table.get?_ofList (operationsIn history) name

/-- The target of a name is the last one that it has been registered for. -/
theorem get?_aliases_registerAll (history : List (Change ω)) (name : String) :
    ((empty : Registry ω).registerAll history).aliases.get? name =
      (targetsUnder history name).getLast? := by
  rw [aliases_registerAll]
  exact Table.get?_ofList (aliasesIn history) name

/-! ## What a name means -/

/-- **An old name means the operation that has been registered under its last target**, if there is
one. Neither is the target looked up as an old name, nor does an operation of the old name count. -/
theorem resolve?_of_target {history : List (Change ω)} {name target : String}
    (h : (targetsUnder history name).getLast? = some target) :
    ((empty : Registry ω).registerAll history).resolve? name =
      (operationsUnder history target).getLast?.map fun operation =>
        ⟨target, operation, some name⟩ := by
  rw [resolve?, get?_aliases_registerAll, h]
  dsimp only
  rw [get?_operations_registerAll]

/-- **A name that is no old one means the last operation that has been registered under it.** -/
theorem resolve?_of_not_alias {history : List (Change ω)} {name : String}
    (h : name ∉ (aliasesIn history).map Prod.fst) :
    ((empty : Registry ω).registerAll history).resolve? name =
      (operationsUnder history name).getLast?.map fun operation => ⟨name, operation, none⟩ := by
  have hnone : (targetsUnder history name).getLast? = none := by
    rw [← Option.not_isSome_iff_eq_none, targetsUnder, Table.isSome_getLast?_valuesUnder]
    exact h
  rw [resolve?, get?_aliases_registerAll, hnone]
  dsimp only
  rw [get?_operations_registerAll]

/-- A name has a last operation exactly when it is that of a registered operation. -/
theorem isSome_getLast?_operationsUnder {history : List (Change ω)} {name : String} :
    (operationsUnder history name).getLast?.isSome ↔ name ∈ (operationsIn history).map Prod.fst :=
  Table.isSome_getLast?_valuesUnder

/-- **Registrations may be interleaved in any way** that leaves those of each name in order. -/
theorem resolve?_congr {history other : List (Change ω)}
    (hoperations : ∀ name, operationsUnder other name = operationsUnder history name)
    (htargets : ∀ name, targetsUnder other name = targetsUnder history name) (name : String) :
    ((empty : Registry ω).registerAll other).resolve? name =
      ((empty : Registry ω).registerAll history).resolve? name := by
  simp only [resolve?, get?_aliases_registerAll, get?_operations_registerAll, hoperations, htargets]

/-- **What a registry keeps of its registrations.** A name that was ever registered as an old one
means the last operation under its last target, if that has one, and is reported as old; any other
name means the last operation under it. The lists hold each name once, in order of its first
registration, with what was registered last. Registrations of different names, or of operations and
old names, may change places without any effect on what a name means. -/
theorem registerAll_history (history : List (Change ω)) :
    let registry := (empty : Registry ω).registerAll history
    (∀ name ∈ (aliasesIn history).map Prod.fst,
      ∃ target, (targetsUnder history name).getLast? = some target ∧
        ((registry.resolve? name).isSome ↔ target ∈ (operationsIn history).map Prod.fst) ∧
        ∀ found, registry.resolve? name = some found ↔
          ∃ operation, (operationsUnder history target).getLast? = some operation ∧
            found = ⟨target, operation, some name⟩) ∧
    (∀ name ∉ (aliasesIn history).map Prod.fst,
      ((registry.resolve? name).isSome ↔ name ∈ (operationsIn history).map Prod.fst) ∧
        ∀ found, registry.resolve? name = some found ↔
          ∃ operation, (operationsUnder history name).getLast? = some operation ∧
            found = ⟨name, operation, none⟩) ∧
    registry.names = ((operationsIn history).map Prod.fst).eraseDups ∧
    registry.operations.entries = Table.settled (operationsIn history) ∧
    registry.aliases.entries = Table.settled (aliasesIn history) ∧
    ∀ other : List (Change ω),
      (∀ name, operationsUnder other name = operationsUnder history name) →
      (∀ name, targetsUnder other name = targetsUnder history name) →
      ∀ name, ((empty : Registry ω).registerAll other).resolve? name = registry.resolve? name := by
  intro registry
  refine ⟨fun name hname => ?old, fun name hname => ?current, ?names, ?operations, ?aliases,
    fun other hoperations htargets => resolve?_congr hoperations htargets⟩
  case old =>
    obtain ⟨target, htarget⟩ : ∃ target, (targetsUnder history name).getLast? = some target :=
      Option.isSome_iff_exists.mp (Table.isSome_getLast?_valuesUnder.mpr hname)
    have hresolve := resolve?_of_target htarget
    refine ⟨target, htarget, ?_, fun found => ?_⟩
    · rw [hresolve, Option.isSome_map, isSome_getLast?_operationsUnder]
    · rw [hresolve, Option.map_eq_some_iff]
      exact exists_congr fun operation => and_congr_right fun _ => eq_comm
  case current =>
    have hresolve := resolve?_of_not_alias hname
    refine ⟨?_, fun found => ?_⟩
    · rw [hresolve, Option.isSome_map, isSome_getLast?_operationsUnder]
    · rw [hresolve, Option.map_eq_some_iff]
      exact exists_congr fun operation => and_congr_right fun _ => eq_comm
  case names =>
    rw [names, operations_registerAll]
    exact Table.keys_ofList (operationsIn history)
  case operations =>
    rw [operations_registerAll]
    exact Table.entries_ofList (operationsIn history)
  case aliases =>
    rw [aliases_registerAll]
    exact Table.entries_ofList (aliasesIn history)

/-- An operation that has a text as its output and leaves all else alone. -/
def sayer (text : String) : Operation Unit :=
  .blocking fun _ diagnostics world => ⟨.ok (.string text), diagnostics, world⟩

/-- An old name under which an operation is registered as well, and one that stands for it. -/
def sampleHistory : List (Change Unit) :=
  [.registerAlias "push" "ship", .register "deploy" (sayer "first"),
    .register "push" (sayer "shadowed"), .registerAlias "send" "push",
    .registerAlias "push" "deploy", .register "deploy" (sayer "second")]

/-- The old name means the second operation of its second target; the name that stands for it means
the operation that is hidden by it. -/
theorem registerAll_sampleHistory :
    let registry := (empty : Registry Unit).registerAll sampleHistory
    "push" ∈ (aliasesIn sampleHistory).map Prod.fst ∧
      "send" ∈ (aliasesIn sampleHistory).map Prod.fst ∧
      "ship" ∉ (aliasesIn sampleHistory).map Prod.fst ∧
      registry.resolve? "push" = some ⟨"deploy", sayer "second", some "push"⟩ ∧
      registry.resolve? "send" = some ⟨"push", sayer "shadowed", some "send"⟩ ∧
      (registry.resolve? "ship").isSome = false ∧
      registry.names = ["deploy", "push"] := by
  intro registry
  obtain ⟨hold, hcurrent, hnames, -, -, -⟩ := registerAll_history sampleHistory
  have hpush : "push" ∈ (aliasesIn sampleHistory).map Prod.fst := by decide
  have hsend : "send" ∈ (aliasesIn sampleHistory).map Prod.fst := by decide
  have hship : "ship" ∉ (aliasesIn sampleHistory).map Prod.fst := by decide
  obtain ⟨_, hdeploy, -, hfoundPush⟩ := hold "push" hpush
  obtain ⟨_, hshadowed, -, hfoundSend⟩ := hold "send" hsend
  cases hdeploy
  cases hshadowed
  have hunknown : ¬ (registry.resolve? "ship").isSome := fun h =>
    absurd ((hcurrent "ship" hship).1.mp h) (by decide)
  exact ⟨hpush, hsend, hship, (hfoundPush _).mpr ⟨_, rfl, rfl⟩, (hfoundSend _).mpr ⟨_, rfl, rfl⟩,
    Bool.eq_false_iff.mpr hunknown, hnames.trans (by decide)⟩

end Registry

end Runbook
