import Runbook.Proofs.Outputs.History

/-! # Outputs that are handed over as a mapping

A run may be handed over to a later one as a single mapping, the root view with every step's output
on top, with which the later run is seeded. What a path finds there is compared with what it finds in
the outputs themselves.

* **`Outputs.get?_merged`** — the mapping holds, under each key, what the key alone finds.
* **`Outputs.Shadowed`** — the paths that end in a step without the rest of them, while the root view
  still has it under the same name.
* **`Outputs.lookup_seeded_merged_cons`** — what a path finds in the mapping.
* **`Outputs.merged_answers_unless_shadowed`** — nothing is found in the mapping that the outputs do
  not have, and only the shadowed paths are lost. -/

namespace Runbook.Outputs

/-- **The mapping has the output of a step under its identifier**, and the value of the root view
under any other key. -/
theorem get?_merged (outputs : Outputs) (key : String) :
    Fields.get? outputs.merged key =
      (outputs.stepOutput? key).or (Fields.get? outputs.root key) := by
  have hupdate : outputs.merged = Fields.update outputs.root outputs.steps.entries := rfl
  rw [hupdate, Fields.get?_update, Fields.member?_object outputs.steps.nodup]
  rfl

/-- Both ways to put the steps on top come to the same mapping. -/
theorem handOver_eq_merged (outputs : Outputs) : outputs.handOver = outputs.merged := rfl

/-- A key alone finds the output of its step, or else its value in the root view. -/
theorem lookup_singleton (outputs : Outputs) (key : String) :
    outputs.lookup [key] = (outputs.stepOutput? key).or (Fields.get? outputs.root key) := by
  have hwhole : (fun value : Json => value.select? []) = some := rfl
  rw [lookup, hwhole, Option.bind_fun_some, Option.bind_fun_some]

/-- **A path that is shadowed**: it begins with the identifier of a step whose output lacks the rest of
it, while the root view has the rest under a key of the same name. -/
def Shadowed (outputs : Outputs) : List String → Prop
  | [] => False
  | head :: rest =>
    (∃ output, outputs.stepOutput? head = some output ∧ output.select? rest = none) ∧
      ∃ value found, Fields.get? outputs.root head = some value ∧ value.select? rest = some found

/-- In the mapping a path goes on in the output of the step that it names, and in the root view only
if there is no such step. -/
theorem lookup_seeded_merged_cons (outputs : Outputs) (head : String) (rest : List String) :
    (seeded outputs.merged).lookup (head :: rest) =
      ((outputs.stepOutput? head).or (Fields.get? outputs.root head)).bind
        fun value => value.select? rest := by
  have hroot : (seeded outputs.merged).root = outputs.merged := rfl
  have hstep : (seeded outputs.merged).stepOutput? head = none := rfl
  rw [lookup, hstep, hroot, get?_merged, Option.bind_none, Option.none_or]

/-- **The mapping and the outputs answer a path alike, unless it is shadowed**; then the mapping has
no answer, while the outputs have that of the root view. -/
theorem lookup_seeded_merged (outputs : Outputs) (path : List String) :
    (seeded outputs.merged).lookup path = outputs.lookup path ∧ ¬ outputs.Shadowed path ∨
      (seeded outputs.merged).lookup path = none ∧ (∃ found, outputs.lookup path = some found) ∧
        outputs.Shadowed path := by
  cases path with
  | nil => exact .inl ⟨rfl, id⟩
  | cons head rest =>
    rw [lookup_seeded_merged_cons, lookup, Shadowed]
    cases hstep : outputs.stepOutput? head with
    | none =>
      refine .inl ⟨rfl, ?_⟩
      rintro ⟨⟨output, houtput, -⟩, -⟩
      cases houtput
    | some output =>
      have hor : (some output).or (Fields.get? outputs.root head) = some output := rfl
      have hbind : ((some output).bind fun value => value.select? rest) = output.select? rest := rfl
      rw [hor, hbind]
      cases hselect : output.select? rest with
      | some found =>
        refine .inl ⟨rfl, ?_⟩
        rintro ⟨⟨other, hother, hlacks⟩, -⟩
        cases hother
        rw [hselect] at hlacks
        cases hlacks
      | none =>
        -- The step lacks the rest of the path, so it is the root view that decides.
        cases hroot : (Fields.get? outputs.root head).bind fun value => value.select? rest with
        | none =>
          refine .inl ⟨rfl, ?_⟩
          rintro ⟨-, value, found, hvalue, hfound⟩
          rw [hvalue] at hroot
          exact Option.some_ne_none found (hfound.symm.trans hroot)
        | some found =>
          obtain ⟨value, hvalue, hfound⟩ := Option.bind_eq_some_iff.mp hroot
          exact .inr ⟨rfl, ⟨found, rfl⟩, ⟨output, rfl, hselect⟩, value, found, hvalue, hfound⟩

/-- **A run may be handed over as a mapping.** Take the outputs after any history of records on any
seed. The two ways to merge them give the same mapping, with the members in order of their keys if the
seed has them so, and under each key it has what the key alone finds in the outputs, or nothing. Seeded
with this mapping, outputs find at a path nothing but what the outputs themselves find there; and they
answer every path alike, except exactly those that are shadowed. -/
theorem merged_answers_unless_shadowed (seed : Fields) (history : List (Option String × Json)) :
    let outputs := (seeded seed).recordAll history
    let handed := seeded outputs.merged
    outputs.handOver = outputs.merged ∧
      (seed.Ordered → Fields.Ordered outputs.merged) ∧
      (∀ key, Fields.get? outputs.merged key = outputs.lookup [key]) ∧
      (∀ path found, handed.lookup path = some found → outputs.lookup path = some found) ∧
      ∀ path, handed.lookup path = outputs.lookup path ↔ ¬ outputs.Shadowed path := by
  intro outputs handed
  refine ⟨outputs.handOver_eq_merged, fun hseed => ?ordered, fun key => ?keys,
    fun path found hfound => ?sound, fun path => ?exact⟩
  case ordered =>
    have hroot : Fields.Ordered outputs.root := (remember_recordAll seed history).ordered hseed
    exact hroot.update outputs.steps.entries
  case keys => rw [get?_merged, lookup_singleton]
  case sound =>
    rcases outputs.lookup_seeded_merged path with ⟨hsame, -⟩ | ⟨hnone, -⟩
    · rw [← hsame]
      exact hfound
    · rw [hnone] at hfound
      cases hfound
  case exact =>
    rcases outputs.lookup_seeded_merged path with ⟨hsame, hclear⟩ | ⟨hnone, ⟨found, hfound⟩, hshadowed⟩
    · exact iff_of_true hsame hclear
    · refine iff_of_false (fun hsame => ?_) (not_not_intro hshadowed)
      rw [hnone, hfound] at hsame
      cases hsame

/-- The hosts of the seed are shadowed by the last record of the deployment, and lost when the outputs
are handed over. -/
example :
    let outputs := (seeded sampleSeed).recordAll sampleHistory
    outputs.lookup ["deploy", "hosts", "1"] = some (.string "b") ∧
      (seeded outputs.merged).lookup ["deploy", "hosts", "1"] = none ∧
      (seeded outputs.merged).lookup ["deploy", "log"] = some (.string "done") := by
  decide +kernel

end Runbook.Outputs
