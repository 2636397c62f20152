import Runbook.Outputs
import Runbook.Proofs.Json.Fields
import Runbook.Proofs.Table

/-! # What outputs remember of their history

Outputs come about by records, one for each step that has run. What can be found in them is told here
by the history of these records alone.

* **`Outputs.recordAll`** — the outputs after a history of records.
* **`Outputs.lastOutput?`**, **`Outputs.lastMember?`** — what the last record under an identifier, and
  the last mapping with a key, have left.
* **`Outputs.Remember`** — how outputs and history belong together; `Remember.record` is the step and
  `remember_recordAll` the whole history.
* **`Outputs.recordAll_history`** — the identifiers, the root view and every path in terms of the
  history. -/

namespace Runbook.Outputs

/-- The outputs after records have been made, one after another: each of an output, and under an
identifier if the step has one. -/
def recordAll (outputs : Outputs) (history : List (Option String × Json)) : Outputs :=
  history.foldl (fun outputs step => outputs.record step.1 step.2) outputs

/-- **The output of the last record under an identifier.** -/
def lastOutput? (history : List (Option String × Json)) (id : String) : Option Json :=
  (history.reverse.find? fun step => step.1 = some id).map Prod.snd

/-- **The value of a key in the last output that is a mapping with that key**, whether it was recorded
under an identifier or not. -/
def lastMember? (history : List (Option String × Json)) (key : String) : Option Json :=
  history.reverse.findSome? fun step => step.2.member? key

/-! ## One record -/

/-- A record changes the output of its own identifier only. -/
theorem stepOutput?_record (outputs : Outputs) (id : Option String) (output : Json) (key : String) :
    (outputs.record id output).stepOutput? key =
      if id = some key then some output else outputs.stepOutput? key := by
  cases id with
  | none => rfl
  | some id =>
    have hinsert : (outputs.record (some id) output).stepOutput? key =
        if key = id then some output else outputs.stepOutput? key :=
      Table.get?_insert outputs.steps id key output
    simp only [hinsert, Option.some.injEq, eq_comm]

/-- **A record replaces the members that its output has**, and no others. -/
theorem get?_root_record (outputs : Outputs) (id : Option String) (output : Json) (key : String) :
    Fields.get? (outputs.record id output).root key =
      (output.member? key).or (Fields.get? outputs.root key) := by
  cases output with
  | object fields => exact Fields.get?_update outputs.root fields key
  | null | bool _ | number _ | string _ | array _ => rfl

/-- A record keeps the order of the root view. -/
theorem ordered_root_record {outputs : Outputs} (h : Fields.Ordered outputs.root)
    (id : Option String) (output : Json) : Fields.Ordered (outputs.record id output).root := by
  cases output with
  | object fields => exact h.update fields
  | null | bool _ | number _ | string _ | array _ => exact h

/-! ## A history of records -/

section

variable (history : List (Option String × Json)) (id : Option String) (output : Json)

theorem recordAll_concat (outputs : Outputs) :
    outputs.recordAll (history ++ [(id, output)]) =
      (outputs.recordAll history).record id output := by
  rw [recordAll, List.foldl_append]
  rfl

theorem lastOutput?_concat (key : String) :
    lastOutput? (history ++ [(id, output)]) key =
      if id = some key then some output else lastOutput? history key := by
  rw [lastOutput?, List.reverse_append, List.reverse_singleton, List.singleton_append,
    List.find?_cons]
  by_cases h : id = some key
  · simp [h]
  · simp [h, lastOutput?]

theorem lastMember?_concat (key : String) :
    lastMember? (history ++ [(id, output)]) key =
      (output.member? key).or (lastMember? history key) := by
  rw [lastMember?, List.reverse_append, List.reverse_singleton, List.singleton_append,
    List.findSome?_cons]
  cases output.member? key <;> rfl

end

/-- A key has a last value once some output is a mapping with it. -/
theorem isSome_lastMember?_iff {history : List (Option String × Json)} {key : String} :
    (lastMember? history key).isSome ↔
      ∃ step ∈ history, ∃ value, step.2.member? key = some value := by
  simp only [lastMember?, List.isSome_findSome?, List.any_eq_true, List.mem_reverse,
    Option.isSome_iff_exists]

/-- **Outputs that remember a history which began with a seed**: the last output of each identifier,
the identifiers in order of their first record, and the last value of each key. -/
structure Remember (seed : Fields) (history : List (Option String × Json)) (outputs : Outputs) :
    Prop where
  stepOutput : ∀ id, outputs.stepOutput? id = lastOutput? history id
  keys : outputs.steps.keys = (history.filterMap Prod.fst).eraseDups
  root : ∀ key, Fields.get? outputs.root key = (lastMember? history key).or (Fields.get? seed key)
  ordered : seed.Ordered → Fields.Ordered outputs.root

namespace Remember

variable {seed : Fields} {history : List (Option String × Json)} {outputs : Outputs}

/-- Nothing has been recorded in the beginning. -/
theorem seeded (seed : Fields) : Remember seed [] (seeded seed) where
  stepOutput _ := rfl
  keys := rfl
  root _ := rfl
  ordered h := h

/-- **A record makes the history longer by one.** -/
theorem record (h : Remember seed history outputs) (id : Option String) (output : Json) :
    Remember seed (history ++ [(id, output)]) (outputs.record id output) where
  stepOutput key := by
    rw [stepOutput?_record, lastOutput?_concat, h.stepOutput]
  keys := by
    rw [List.filterMap_append]
    cases id with
    | none => exact h.keys.trans (congrArg List.eraseDups (List.append_nil _).symm)
    | some id =>
      have hconcat := eraseDups_concat (history.filterMap Prod.fst) id
      rw [← h.keys] at hconcat
      exact (Table.keys_insert outputs.steps id output).trans hconcat.symm
  root key := by
    rw [get?_root_record, lastMember?_concat, h.root, Option.or_assoc]
  ordered hseed := ordered_root_record (h.ordered hseed) id output

end Remember

/-- **All of the history is remembered.** -/
theorem remember_recordAll (seed : Fields) (history : List (Option String × Json)) :
    Remember seed history ((seeded seed).recordAll history) := by
  -- Records are made at the end, so the induction takes the last record away.
  induction history using List.reverseRecOn with
  | nil => exact Remember.seeded seed
  | append_singleton history step ih =>
    rw [recordAll_concat]
    exact ih.record step.1 step.2

/-- What is found in a step, or else in the root view. -/
theorem lookup_cons_eq_some_iff (outputs : Outputs) (head : String) (rest : List String)
    (found : Json) :
    outputs.lookup (head :: rest) = some found ↔
      (∃ output, outputs.stepOutput? head = some output ∧ output.select? rest = some found) ∨
      ((∀ output, outputs.stepOutput? head = some output → output.select? rest = none) ∧
        ∃ value, Fields.get? outputs.root head = some value ∧ value.select? rest = some found) := by
  rw [lookup, Option.or_eq_some_iff, Option.bind_eq_some_iff, Option.bind_eq_none_iff,
    Option.bind_eq_some_iff]

/-- **What outputs remember of their history**, whatever they were seeded with. A key of the root view
has the value that the last mapping with this key gave it, or else its value in the seed, and there
are no other keys. A step has the output of its last record, and the identifiers are in order of
their first records. A path finds something in the step that it names first, or else, if the rest of
it selects nothing there, in the root view; the empty path finds nothing. -/
theorem recordAll_history (seed : Fields) (history : List (Option String × Json)) :
    let outputs := (seeded seed).recordAll history
    (∀ key, Fields.get? outputs.root key =
      (lastMember? history key).or (Fields.get? seed key)) ∧
    (∀ key, key ∈ Fields.keys outputs.root ↔
      key ∈ Fields.keys seed ∨ ∃ step ∈ history, ∃ value, step.2.member? key = some value) ∧
    (seed.Ordered → Fields.Ordered outputs.root) ∧
    (∀ id, outputs.stepOutput? id = lastOutput? history id) ∧
    outputs.steps.keys = (history.filterMap Prod.fst).eraseDups ∧
    (∀ head rest found, outputs.lookup (head :: rest) = some found ↔
      (∃ output, lastOutput? history head = some output ∧ output.select? rest = some found) ∨
      ((∀ output, lastOutput? history head = some output → output.select? rest = none) ∧
        ∃ value, (lastMember? history head).or (Fields.get? seed head) = some value ∧
          value.select? rest = some found)) ∧
    outputs.lookup [] = none := by
  intro outputs
  have h : Remember seed history outputs := remember_recordAll seed history
  refine ⟨h.root, fun key => ?keys, h.ordered, h.stepOutput, h.keys,
    fun head rest found => ?paths, rfl⟩
  case keys =>
    rw [← isSome_lastMember?_iff, Fields.mem_keys_iff, Fields.mem_keys_iff,
      ← Option.isSome_iff_exists, ← Option.isSome_iff_exists, h.root, Option.isSome_or,
      Bool.or_eq_true, or_comm]
  case paths =>
    rw [lookup_cons_eq_some_iff, h.stepOutput, h.root]

/-- A seed with the hosts of a deployment. -/
def sampleSeed : Fields :=
  [("deploy", .object [("hosts", .array [.string "a", .string "b"])]), ("status", .null)]

/-- Two records under one identifier, and one without any between them. -/
def sampleHistory : List (Option String × Json) :=
  [(some "deploy", .string "failed"), (none, .object [("status", .string "retried")]),
    (some "deploy", .object [("log", .string "done")])]

/-- The later record of the deployment has no hosts, so those of the seed are found. -/
theorem recordAll_sampleHistory :
    let outputs := (seeded sampleSeed).recordAll sampleHistory
    sampleSeed.Ordered ∧ Fields.Ordered outputs.root ∧ outputs.steps.keys = ["deploy"] ∧
      outputs.lookup ["deploy", "log"] = some (.string "done") ∧
      outputs.lookup ["deploy", "hosts", "1"] = some (.string "b") ∧
      outputs.lookup ["status"] = some (.string "retried") := by
  intro outputs
  have hseed : sampleSeed.Ordered := by
    rw [Fields.Ordered]
    decide +kernel
  obtain ⟨-, -, hordered, -, hkeys, hpaths, -⟩ := recordAll_history sampleSeed sampleHistory
  have hlast : lastOutput? sampleHistory "deploy" =
      some (.object [("log", .string "done")]) := by decide +kernel
  refine ⟨hseed, hordered hseed, hkeys.trans (by decide +kernel), ?log, ?hosts, ?status⟩
  case log => exact (hpaths _ _ _).mpr (.inl ⟨_, hlast, by decide +kernel⟩)
  case hosts =>
    refine (hpaths _ _ _).mpr (.inr ⟨fun output houtput => ?_, _, rfl, by decide +kernel⟩)
    cases hlast.symm.trans houtput
    decide +kernel
  case status =>
    refine (hpaths _ _ _).mpr (.inr ⟨fun output houtput => ?_, _, rfl, by decide +kernel⟩)
    cases houtput

end Runbook.Outputs
