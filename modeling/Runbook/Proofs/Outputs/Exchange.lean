import Runbook.Proofs.Outputs.History

/-! # Records that may change places

Two records under different identifiers, of outputs without a key in common, come to the same in
either order, except that identifiers are listed in the order of their first records.

* **`Outputs.SameUpToOrder`** — outputs that differ in the order of their identifiers at most.
* **`Outputs.SameUpToOrder.lookup_eq`**, **`Outputs.SameUpToOrder.merged_eq`** — nothing else can be
  told from such outputs.
* **`Outputs.lookup_record`** — a record does not show in a path that does not begin with its
  identifier or with a key of its output.
* **`Outputs.record_comm`** — records that have nothing in common may change places. -/

namespace Runbook

/-- Different keys may get their values in either order; only new keys change their places. -/
theorem Table.setEntry_comm {α : Type*} {k l : String} (h : k ≠ l) (entries : List (String × α))
    (v w : α) :
    (setEntry l w (setEntry k v entries)).Perm (setEntry k v (setEntry l w entries)) := by
  induction entries with
  | nil =>
    have hnew : setEntry l w (setEntry k v []) = [(k, v), (l, w)] := by simp [setEntry, h.symm]
    have hnew' : setEntry k v (setEntry l w []) = [(l, w), (k, v)] := by simp [setEntry, h]
    rw [hnew, hnew']
    exact List.Perm.swap _ _ []
  | cons entry rest ih =>
    obtain ⟨m, u⟩ := entry
    by_cases hk : k = m
    · subst hk
      simp [setEntry, h.symm]
    · by_cases hl : l = m
      · subst hl
        simp [setEntry, h]
      · simpa [setEntry, hk, hl] using ih

namespace Outputs

/-- **Outputs that differ in the order of their identifiers at most.** -/
structure SameUpToOrder (first second : Outputs) : Prop where
  root : first.root = second.root
  steps : first.steps.entries.Perm second.steps.entries
  stepOutput : ∀ id, first.stepOutput? id = second.stepOutput? id

namespace SameUpToOrder

variable {first second : Outputs}

/-- Every path finds the same. -/
theorem lookup_eq (h : first.SameUpToOrder second) (path : List String) :
    first.lookup path = second.lookup path := by
  cases path with
  | nil => rfl
  | cons head rest => rw [lookup, lookup, h.stepOutput, h.root]

/-- The mapping that is handed over is the same. -/
theorem merged_eq (h : first.SameUpToOrder second) : first.merged = second.merged := by
  have hfirst : first.merged = Fields.update first.root first.steps.entries := rfl
  have hsecond : second.merged = Fields.update second.root second.steps.entries := rfl
  rw [hfirst, hsecond, h.root]
  exact Fields.update_perm h.steps first.steps.nodup second.root

end SameUpToOrder

/-- **A record does not show in a path** that begins neither with its identifier nor with a key of
its output. -/
theorem lookup_record {id : Option String} {output : Json} {head : String} (hid : id ≠ some head)
    (hkey : head ∉ output.keys) (outputs : Outputs) (rest : List String) :
    (outputs.record id output).lookup (head :: rest) = outputs.lookup (head :: rest) := by
  rw [lookup, lookup, stepOutput?_record, get?_root_record, if_neg hid,
    Json.member?_eq_none_of_notMem hkey, Option.none_or]

/-- The root view takes outputs without a key in common in either order. -/
theorem root_record_comm {x y : Json} (h : x.keys.Disjoint y.keys) (outputs : Outputs)
    (left right : Option String) :
    ((outputs.record left x).record right y).root =
      ((outputs.record right y).record left x).root := by
  cases x with
  | object first =>
    cases y with
    | object second => exact Fields.update_comm h outputs.root
    | null | bool _ | number _ | string _ | array _ => rfl
  | null | bool _ | number _ | string _ | array _ => rfl

/-- **Records that have nothing in common may change places.** -/
theorem record_comm {left right : Option String} {x y : Json}
    (hids : ∀ id, left = some id → right ≠ some id) (hkeys : x.keys.Disjoint y.keys)
    (outputs : Outputs) :
    ((outputs.record left x).record right y).SameUpToOrder
      ((outputs.record right y).record left x) where
  root := root_record_comm hkeys outputs left right
  steps := by
    cases left with
    | none => exact List.Perm.refl _
    | some k =>
      cases right with
      | none => exact List.Perm.refl _
      | some l =>
        have hne : k ≠ l := fun heq => hids k rfl (congrArg some heq.symm)
        exact Table.setEntry_comm hne outputs.steps.entries x y
  stepOutput id := by
    simp only [stepOutput?_record]
    by_cases hleft : left = some id
    · have hright : right ≠ some id := hids id hleft
      rw [if_neg hright, if_pos hleft, if_pos hleft]
    · rw [if_neg hleft, if_neg hleft]

end Outputs

end Runbook
