import Runbook.Proofs.Pipeline.Visits

/-! # The way in which an operation is run does not show

An operation may be registered to run apart or in place. As long as it only adds to the diagnostics
that it is handed, nothing that is invoked or run tells the two ways apart.

* **`Operation.switched`**, **`Registry.reregisterAll`** — the operation that is run the other way,
  and the registry in which this has been done to names.
* **`Registry.invoke_of_appends`** — what such an operation comes to, with no regard to the way.
* **`Registry.RunAlike`** — registries that differ in the way alone; all that is invoked
  (`RunAlike.invoke_eq`) and run (`RunAlike.runSteps_eq`) is the same in both.
* **`Registry.runAlike_builtin`** — the built-in operations may be run either way.
* **`Registry.reregisterAll_unobservable`** — names may be registered the other way. -/

namespace Runbook

variable {ω κ : Type}

/-! ## The other way -/

namespace Operation

/-- **The operation that does the same and is run the other way.** -/
def switched : Operation ω → Operation ω
  | .blocking behaviour => .suspending behaviour
  | .suspending behaviour => .blocking behaviour

@[simp] theorem behaviour_switched (operation : Operation ω) :
    operation.switched.behaviour = operation.behaviour := by
  cases operation <;> rfl

theorem run_switched {operation : Operation ω} (h : Behaviour.Appends operation.behaviour) :
    operation.switched.run = operation.run := by
  funext parameters collected world
  have hswitched : Behaviour.Appends operation.switched.behaviour := by
    rw [behaviour_switched]
    exact h
  rw [run_of_appends h, run_of_appends hswitched, behaviour_switched]

end Operation

namespace Registry

/-! ## Invocations -/

/-- **An operation that only appends is invoked with no regard to its way**: the notice that a name
is old comes first, and its own diagnostics behind it. -/
theorem invoke_of_appends {registry : Registry ω} {name : String} {resolved : Resolved ω}
    (h : registry.resolve? name = some resolved)
    (happends : Behaviour.Appends resolved.operation.behaviour) (requires : List String)
    (parameters : Fields) (world : ω) :
    registry.invoke name requires parameters world =
      ((resolved.operation.behaviour parameters [] world).behind
        (registry.deprecations name)).attempt resolved.name parameters := by
  rw [invoke_of_resolve? h, Operation.run_of_appends happends, notices_of_resolve? h]

/-! ## Registries that run alike -/

/-- **Registries that differ at most in the way in which operations are run**, where this does not
show in any report. -/
structure RunAlike (first second : Registry ω) : Prop where
  aliases : first.aliases = second.aliases
  run : ∀ name, (first.operations.get? name).map Operation.run =
    (second.operations.get? name).map Operation.run

namespace RunAlike

theorem refl (registry : Registry ω) : registry.RunAlike registry := ⟨rfl, fun _ => rfl⟩

theorem trans {first second third : Registry ω} (h : first.RunAlike second)
    (h' : second.RunAlike third) : first.RunAlike third :=
  ⟨h.aliases.trans h'.aliases, fun name => (h.run name).trans (h'.run name)⟩

variable {first second : Registry ω}

/-- A name means the same in both, but for the way. -/
theorem resolve?_eq (h : first.RunAlike second) (name : String) :
    (first.resolve? name).map (fun found => (found.name, found.operation.run, found.oldName)) =
      (second.resolve? name).map fun found => (found.name, found.operation.run, found.oldName) := by
  have hrun : ∀ target (oldName : Option String),
      (first.operations.get? target).map (fun operation => (target, operation.run, oldName)) =
        (second.operations.get? target).map fun operation => (target, operation.run, oldName) := by
    intro target oldName
    have hmap := congrArg (Option.map fun run => (target, run, oldName)) (h.run target)
    rwa [Option.map_map, Option.map_map] at hmap
  rw [resolve?, resolve?, h.aliases]
  cases second.aliases.get? name with
  | none =>
    rw [Option.map_map, Option.map_map]
    exact hrun name none
  | some target =>
    dsimp only
    rw [Option.map_map, Option.map_map]
    exact hrun target (some name)

/-- **Registries that run alike come to the same in every invocation.** -/
theorem invoke_eq (h : first.RunAlike second) (name : String) (requires : List String)
    (parameters : Fields) (world : ω) :
    first.invoke name requires parameters world = second.invoke name requires parameters world := by
  have hresolve := h.resolve?_eq name
  cases hsecond : second.resolve? name with
  | none =>
    rw [hsecond, Option.map_none, Option.map_eq_none_iff] at hresolve
    rw [invoke_of_resolve?_eq_none hresolve, invoke_of_resolve?_eq_none hsecond]
  | some found =>
    rw [hsecond, Option.map_some, Option.map_eq_some_iff] at hresolve
    obtain ⟨resolved, hfirst, heq⟩ := hresolve
    obtain ⟨hname, hrest⟩ := Prod.mk.inj heq
    obtain ⟨hrun, hold⟩ := Prod.mk.inj hrest
    have hnotices : resolved.notices = found.notices := by
      rw [Resolved.notices, Resolved.notices, hname, hold]
    rw [invoke_of_resolve? hfirst, invoke_of_resolve? hsecond, hrun, hname, hnotices]

/-- Pipelines with such registries execute a step alike. -/
theorem execute_eq (h : first.RunAlike second) (environment : Environment) (store : Store)
    (step : Step) (outputs : Outputs) (world : ω) :
    (Pipeline.mk first environment store).execute step outputs world =
      (Pipeline.mk second environment store).execute step outputs world := by
  have hsources : (Pipeline.mk first environment store).sources outputs =
      (Pipeline.mk second environment store).sources outputs := rfl
  rw [Pipeline.execute, Pipeline.execute, hsources]
  cases Resolution.parameters ((Pipeline.mk second environment store).sources outputs)
      step.parameters with
  | error cause => rfl
  | ok parameters =>
    dsimp only
    rw [h.invoke_eq]

/-- **Pipelines with such registries run alike**, from any position on. -/
theorem runFrom_eq (h : first.RunAlike second) (environment : Environment) (store : Store)
    (sink : Sink κ) (index : Nat) (outputs : Outputs) (steps : List Step) (world : ω) (state : κ) :
    (Pipeline.mk first environment store).runFrom sink index outputs steps world state =
      (Pipeline.mk second environment store).runFrom sink index outputs steps world state :=
  Pipeline.runFrom_congr (fun step _ => h.execute_eq environment store step) sink index outputs
    world state

/-- **Pipelines with such registries run alike**, whatever the entries are. -/
theorem runSteps_eq (h : first.RunAlike second) (environment : Environment) (store : Store)
    (sink : Sink κ) (entries : List Json) (earlier : Option Outputs) (world : ω) (state : κ) :
    (Pipeline.mk first environment store).runSteps sink entries earlier world state =
      (Pipeline.mk second environment store).runSteps sink entries earlier world state := by
  rw [Pipeline.runSteps, Pipeline.runSteps]
  cases Pipeline.stepsOf 0 entries with
  | error e => rfl
  | ok steps => exact h.runFrom_eq environment store sink 0 _ steps world state

end RunAlike

/-! ## Names that are registered the other way -/

/-- Registers the operation of a name once more, to be run the other way. -/
def reregister (registry : Registry ω) (name : String) : Registry ω :=
  match registry.operations.get? name with
  | some operation => registry.register name operation.switched
  | none => registry

/-- **Registers the operations of names once more**, each to be run the other way. -/
def reregisterAll (registry : Registry ω) (names : List String) : Registry ω :=
  names.foldl reregister registry

theorem get?_reregister (registry : Registry ω) (name key : String) :
    (registry.reregister name).operations.get? key =
      if key = name then (registry.operations.get? name).map Operation.switched
      else registry.operations.get? key := by
  rw [reregister]
  cases hget : registry.operations.get? name with
  | none =>
    by_cases hkey : key = name
    · rw [if_pos hkey, hkey]
      exact hget
    · rw [if_neg hkey]
  | some operation => exact Table.get?_insert registry.operations name key operation.switched

/-- An operation does the same when a name has been registered once more. -/
theorem behaviour_reregister (registry : Registry ω) (name key : String) :
    ((registry.reregister name).operations.get? key).map Operation.behaviour =
      (registry.operations.get? key).map Operation.behaviour := by
  rw [get?_reregister]
  by_cases hkey : key = name
  · have hsame : Operation.behaviour ∘ Operation.switched = Operation.behaviour (ω := ω) := by
      funext operation
      exact operation.behaviour_switched
    rw [if_pos hkey, hkey, Option.map_map, hsame]
  · rw [if_neg hkey]

/-- **Nothing runs differently when a name is registered once more.** -/
theorem runAlike_reregister {registry : Registry ω} {name : String}
    (h : ∀ operation, registry.operations.get? name = some operation →
      Behaviour.Appends operation.behaviour) :
    (registry.reregister name).RunAlike registry where
  aliases := by
    rw [reregister]
    cases registry.operations.get? name <;> rfl
  run key := by
    rw [get?_reregister]
    by_cases hkey : key = name
    · rw [if_pos hkey, hkey]
      cases hget : registry.operations.get? name with
      | none => rfl
      | some operation => exact congrArg some (Operation.run_switched (h operation hget))
    · rw [if_neg hkey]

/-- **Nothing runs differently when names are registered once more**, one after another. -/
theorem runAlike_reregisterAll {registry : Registry ω} {names : List String}
    (h : ∀ name ∈ names, ∀ operation, registry.operations.get? name = some operation →
      Behaviour.Appends operation.behaviour) :
    (registry.reregisterAll names).RunAlike registry := by
  induction names generalizing registry with
  | nil => exact RunAlike.refl registry
  | cons name rest ih =>
    obtain ⟨hname, hrest⟩ := List.forall_mem_cons.mp h
    have hstep : (registry.reregister name).RunAlike registry := runAlike_reregister hname
    -- the operations that are registered once more still do the same, so they still only append
    have hbehind : ∀ key ∈ rest, ∀ operation,
        (registry.reregister name).operations.get? key = some operation →
          Behaviour.Appends operation.behaviour := by
      intro key hkey operation hget
      have hbehaviour := behaviour_reregister registry name key
      rw [hget, Option.map_some, eq_comm, Option.map_eq_some_iff] at hbehaviour
      obtain ⟨before, hbefore, hsame⟩ := hbehaviour
      rw [← hsame]
      exact hrest key hkey before hbefore
    exact (ih hbehind).trans hstep

/-- **Nothing runs differently when built-in operations are registered once more.** -/
theorem runAlike_builtin [DomainNames] (host : Host ω) (environment : Environment)
    (names : List String) :
    ((builtin host environment).reregisterAll names).RunAlike (builtin host environment) :=
  runAlike_reregisterAll fun _ _ _ hget => builtin_appends host environment hget

/-- **The way in which operations are run cannot be observed.** Let any names be registered once
more for the other way, where their operations only append to the diagnostics that they are handed.
Every invocation, under a name or an old name, comes to the same: the same output with the same
diagnostics, or the same error with the same diagnostics in the log. Every run comes to the same
result and leaves the same world, sink and events, whatever the entries, the earlier outputs, the
environment, the store and the sink are. In both ways the notice that a name is old comes before the
diagnostics that the operation raises when it is handed none. -/
theorem reregisterAll_unobservable (registry : Registry ω) (names : List String)
    (h : ∀ name ∈ names, ∀ operation, registry.operations.get? name = some operation →
      Behaviour.Appends operation.behaviour) :
    (∀ name requires parameters world,
        (registry.reregisterAll names).invoke name requires parameters world =
          registry.invoke name requires parameters world) ∧
      (∀ environment store (κ : Type) (sink : Sink κ) entries earlier world state,
        (Pipeline.mk (registry.reregisterAll names) environment store).runSteps sink entries earlier
            world state =
          (Pipeline.mk registry environment store).runSteps sink entries earlier world state) ∧
      ∀ name resolved, registry.resolve? name = some resolved → resolved.name ∈ names →
        ∀ requires parameters world,
          registry.invoke name requires parameters world =
            ((resolved.operation.behaviour parameters [] world).behind
              (registry.deprecations name)).attempt resolved.name parameters := by
  have halike : (registry.reregisterAll names).RunAlike registry := runAlike_reregisterAll h
  refine ⟨halike.invoke_eq, ?_, ?_⟩
  · intro environment store κ sink
    exact halike.runSteps_eq environment store sink
  · intro name resolved hresolved hmem requires parameters world
    have happends : Behaviour.Appends resolved.operation.behaviour :=
      h resolved.name hmem resolved.operation (get?_of_resolve? hresolved)
    exact invoke_of_appends hresolved happends requires parameters world

/-- A registry with a step that warns and is run apart, under an old name as well, and one that
fails and is run in place. -/
def sample : Registry Nat :=
  let greet : Behaviour Nat := fun parameters collected calls =>
    ⟨.ok (.object parameters), collected ++ [.warning "once more"], calls + 1⟩
  let stop : Behaviour Nat := fun _ collected calls =>
    ⟨.error (.ofMessage "no way on"), collected ++ [.warning "too late"], calls + 1⟩
  ((Registry.empty.register "greet" (.blocking greet)).register
    "stop" (.suspending stop)).registerAlias "hello" "greet"

/-- The two steps are run the other way, which shows in their kinds alone. -/
theorem reregisterAll_sample_unobservable :
    (∀ name ∈ ["greet", "stop"], ∀ operation, sample.operations.get? name = some operation →
        Behaviour.Appends operation.behaviour) ∧
      ((sample.reregisterAll ["greet", "stop"]).operations.get? "greet").map Operation.kind =
        some "suspending" ∧
      ((sample.reregisterAll ["greet", "stop"]).operations.get? "stop").map Operation.kind =
        some "blocking" ∧
      ((sample.reregisterAll ["greet", "stop"]).invoke "hello" [] [] 0).result =
        .ok ⟨.object [], [deprecatedName "hello" "greet", .warning "once more"]⟩ := by
  have happends : ∀ name ∈ ["greet", "stop"], ∀ operation,
      sample.operations.get? name = some operation → Behaviour.Appends operation.behaviour := by
    refine List.forall_mem_cons.mpr ⟨?_, List.forall_mem_singleton.mpr ?_⟩
    · intro operation hget
      cases hget
      exact fun parameters collected world => rfl
    · intro operation hget
      cases hget
      exact fun parameters collected world => rfl
  obtain ⟨hinvoke, -, -⟩ := sample.reregisterAll_unobservable ["greet", "stop"] happends
  refine ⟨happends, rfl, rfl, ?_⟩
  rw [hinvoke]
  rfl

end Registry

end Runbook
