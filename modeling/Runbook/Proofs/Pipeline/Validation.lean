import Mathlib.Data.List.Forall2
import Runbook.Console
import Runbook.Pipeline.Run

/-! # Validation comes before everything else

* **`Pipeline.Describe`** — entries that describe steps, one by one.
* **`Pipeline.stepsOf_eq_ok_iff`**, **`Pipeline.stepsOf_eq_error_iff`** — what the validation of a
  list of entries comes to: all their steps, or the error of the first that describes none.
* **`Pipeline.runSteps_of_rejected`** — a run of entries with a rejected one among them does nothing
  but report the first of these.
* **`Pipeline.sample`** — a small pipeline for the examples here and elsewhere. -/

namespace Runbook.Pipeline

variable {ω κ : Type}

/-- Entries describe steps, one by one. -/
abbrev Describe : List Json → List Step → Prop :=
  List.Forall₂ fun entry step => Step.ofEntry entry = .ok step

/-- Each of the entries describes one of the steps, and each of the steps is described by one of the
entries. -/
theorem mem_of_describe {entries : List Json} {steps : List Step} (h : Describe entries steps) :
    (∀ entry ∈ entries, ∃ step ∈ steps, Step.ofEntry entry = .ok step) ∧
      ∀ step ∈ steps, ∃ entry ∈ entries, Step.ofEntry entry = .ok step := by
  induction h with
  | nil => exact ⟨fun entry h => absurd h List.not_mem_nil, fun step h => absurd h List.not_mem_nil⟩
  | cons hentry _ ih =>
    obtain ⟨hsteps, hentries⟩ := ih
    constructor
    · refine List.forall_mem_cons.mpr ⟨⟨_, List.mem_cons_self, hentry⟩, fun entry hmem => ?_⟩
      obtain ⟨step, hstep, hdescribes⟩ := hsteps entry hmem
      exact ⟨step, List.mem_cons_of_mem _ hstep, hdescribes⟩
    · refine List.forall_mem_cons.mpr ⟨⟨_, List.mem_cons_self, hentry⟩, fun step hmem => ?_⟩
      obtain ⟨entry, hentry, hdescribes⟩ := hentries step hmem
      exact ⟨entry, List.mem_cons_of_mem _ hentry, hdescribes⟩

/-- What can be read off an entry for its step can be read off a whole list. -/
theorem map_eq_of_describe {α : Type} {f : Step → α} {g : Json → α}
    (hread : ∀ {entry step}, Step.ofEntry entry = .ok step → f step = g entry)
    {entries : List Json} {steps : List Step} (h : Describe entries steps) :
    steps.map f = entries.map g := by
  induction h with
  | nil => rfl
  | cons hentry _ ih => rw [List.map_cons, List.map_cons, hread hentry, ih]

/-- The entry of a step stands where the step does. -/
theorem getElem?_of_describe {entries : List Json} {steps : List Step} (h : Describe entries steps)
    {index : Nat} {step : Step} (hstep : steps[index]? = some step) :
    ∃ entry, entries[index]? = some entry ∧ Step.ofEntry entry = .ok step := by
  induction h generalizing index with
  | nil => cases hstep
  | cons hentry _ ih =>
    cases index with
    | zero =>
      cases hstep
      exact ⟨_, rfl, hentry⟩
    | succ index => exact ih hstep

/-- Entries describe some steps exactly if each of them is accepted. -/
theorem exists_describe_iff {entries : List Json} :
    (∃ steps, Describe entries steps) ↔
      ∀ entry ∈ entries, ∃ step, Step.ofEntry entry = .ok step := by
  constructor
  · rintro ⟨steps, h⟩ entry hmem
    obtain ⟨step, -, hstep⟩ := (mem_of_describe h).1 entry hmem
    exact ⟨step, hstep⟩
  · intro h
    induction entries with
    | nil => exact ⟨[], .nil⟩
    | cons entry rest ih =>
      obtain ⟨⟨step, hstep⟩, hrest⟩ := List.forall_mem_cons.mp h
      obtain ⟨steps, hsteps⟩ := ih hrest
      exact ⟨step :: steps, .cons hstep hsteps⟩

/-- **Validation succeeds with the steps that the entries describe**, wherever the entries stand. -/
theorem stepsOf_eq_ok_iff {index : Nat} {entries : List Json} {steps : List Step} :
    stepsOf index entries = .ok steps ↔ Describe entries steps := by
  induction entries generalizing index steps with
  | nil => cases steps <;> simp [stepsOf]
  | cons entry rest ih =>
    rw [stepsOf]
    constructor
    · intro h
      cases hentry : Step.ofEntry entry with
      | error cause => simp [hentry] at h
      | ok step =>
        simp only [hentry] at h
        cases hrest : stepsOf (index + 1) rest with
        | error e => rw [hrest] at h; cases h
        | ok more =>
          rw [hrest] at h
          cases h
          exact .cons hentry (ih.mp hrest)
    · intro h
      cases h with
      | cons hentry hrest => rw [hentry]; exact congrArg (Except.map _) (ih.mpr hrest)

/-- **Validation fails at the first entry that describes no step**, and says at which position that
stands and what is wrong with it. -/
theorem stepsOf_eq_error_iff {index : Nat} {entries : List Json} {e : PipelineError} :
    stepsOf index entries = .error e ↔
      ∃ before entry after cause, entries = before ++ entry :: after ∧
        (∀ earlier ∈ before, ∃ step, Step.ofEntry earlier = .ok step) ∧
        Step.ofEntry entry = .error cause ∧ e = .format (index + before.length) cause := by
  induction entries generalizing index with
  | nil => simp [stepsOf]
  | cons first rest ih =>
    rw [stepsOf]
    cases hfirst : Step.ofEntry first with
    | error reason =>
      simp only [Except.error.injEq]
      constructor
      · rintro rfl
        exact ⟨[], first, rest, reason, rfl, by simp, hfirst, rfl⟩
      · rintro ⟨before, entry, after, cause, hsplit, hbefore, hentry, rfl⟩
        rcases List.cons_eq_append_iff.mp hsplit with ⟨rfl, hcons⟩ | ⟨tail, rfl, -⟩
        · obtain ⟨rfl, -⟩ := List.cons.inj hcons
          rw [hfirst] at hentry
          rw [Except.error.inj hentry]
          rfl
        · obtain ⟨step, hstep⟩ := hbefore first List.mem_cons_self
          rw [hfirst] at hstep
          cases hstep
    | ok step =>
      have hmap : (stepsOf (index + 1) rest).map (step :: ·) = .error e ↔
          stepsOf (index + 1) rest = .error e := by
        cases stepsOf (index + 1) rest <;> simp [Except.map]
      rw [hmap, ih]
      constructor
      · rintro ⟨before, entry, after, cause, rfl, hbefore, hentry, rfl⟩
        refine ⟨first :: before, entry, after, cause, rfl, ?_, hentry, ?_⟩
        · exact List.forall_mem_cons.mpr ⟨⟨step, hfirst⟩, hbefore⟩
        · rw [List.length_cons, Nat.add_assoc, Nat.add_comm 1]
      · rintro ⟨before, entry, after, cause, hsplit, hbefore, hentry, rfl⟩
        rcases List.cons_eq_append_iff.mp hsplit with ⟨rfl, hcons⟩ | ⟨tail, rfl, rfl⟩
        · obtain ⟨rfl, -⟩ := List.cons.inj hcons
          rw [hfirst] at hentry
          cases hentry
        · refine ⟨tail, entry, after, cause, rfl, ?_, hentry, ?_⟩
          · exact fun earlier h => hbefore earlier (List.mem_cons_of_mem first h)
          · rw [List.length_cons, Nat.add_assoc, Nat.add_comm 1]

/-- The run of entries that describe steps is the run of these steps. -/
theorem runSteps_of_describe (pipeline : Pipeline ω) (sink : Sink κ) {entries : List Json}
    {steps : List Step} (h : Describe entries steps) (earlier : Option Outputs) (world : ω)
    (state : κ) :
    pipeline.runSteps sink entries earlier world state =
      pipeline.runFrom sink 0 (earlier.getD .empty) steps world state := by
  rw [runSteps, stepsOf_eq_ok_iff.mpr h]

/-- A run succeeds only if its entries describe steps; it is the run of these. -/
theorem describe_of_result_eq_ok {pipeline : Pipeline ω} {sink : Sink κ} {entries : List Json}
    {earlier : Option Outputs} {world : ω} {state : κ} {final : Outputs}
    (h : (pipeline.runSteps sink entries earlier world state).result = .ok final) :
    ∃ steps, Describe entries steps ∧
      (pipeline.runFrom sink 0 (earlier.getD .empty) steps world state).result = .ok final := by
  rw [runSteps] at h
  cases hsteps : stepsOf 0 entries with
  | error e =>
    rw [hsteps] at h
    cases h
  | ok steps =>
    rw [hsteps] at h
    exact ⟨steps, stepsOf_eq_ok_iff.mp hsteps, h⟩

/-- A pipeline whose world counts calls. Its step `greet`, once called `hello`, gives back its
parameters and warns in a style that the console does not know; its step `stop` fails. -/
def sample : Pipeline Nat where
  registry :=
    ((Registry.empty.register "greet" (.blocking fun parameters _ calls =>
        ⟨.ok (.object parameters), [⟨.warning, "once more", some "sparkling"⟩], calls + 1⟩)).register
      "stop" (.suspending fun _ collected calls =>
        ⟨.error (.ofMessage "no way on"), collected, calls + 1⟩)).registerAlias "hello" "greet"
  environment := .empty
  store := ⟨fun type name => .error (.blockNotFound type name),
    fun name => .error (.variableNotFound name)⟩

/-- Entries for the pipeline: the second refers to the first, the third fails. -/
def sampleEntries : List Json :=
  [.object [("hello", .object [("id", .string "a"), ("x", .bool true)])],
    .object [("greet", .object [("y", .string "\x7b\x7b a.x \x7d\x7d")])],
    .object [("stop", .null)], .object [("greet", .null)]]

/-- The steps that the entries describe. -/
def sampleSteps : List Step :=
  [⟨"hello", some "a", [], [("x", .bool true)]⟩,
    ⟨"greet", none, [], [("y", .string "\x7b\x7b a.x \x7d\x7d")]⟩,
    ⟨"stop", none, [], []⟩, ⟨"greet", none, [], []⟩]

/-- **One rejected entry keeps a whole run from starting.** The run fails with the position of the
first rejected entry and with what is wrong with that one, whatever the entries before it would have
done; no message goes to the sink, no operation is called and nothing is logged, so that the world
and the sink are left as they were. -/
theorem runSteps_of_rejected (pipeline : Pipeline ω) (sink : Sink κ) (entries : List Json)
    (earlier : Option Outputs) (world : ω) (state : κ)
    (h : ∃ entry ∈ entries, ∃ cause, Step.ofEntry entry = .error cause) :
    ∃ index entry cause, entries[index]? = some entry ∧ Step.ofEntry entry = .error cause ∧
      (∀ position < index, ∀ other, entries[position]? = some other →
        ∃ step, Step.ofEntry other = .ok step) ∧
      pipeline.runSteps sink entries earlier world state =
        ⟨.error (.format index cause), world, state, []⟩ := by
  cases hsteps : stepsOf 0 entries with
  | ok steps =>
    obtain ⟨entry, hmem, cause, hcause⟩ := h
    obtain ⟨step, hstep⟩ := exists_describe_iff.mp ⟨steps, stepsOf_eq_ok_iff.mp hsteps⟩ entry hmem
    rw [hcause] at hstep
    cases hstep
  | error e =>
    obtain ⟨before, entry, after, cause, rfl, hbefore, hentry, rfl⟩ :=
      stepsOf_eq_error_iff.mp hsteps
    refine ⟨before.length, entry, cause, by simp, hentry, ?_, ?_⟩
    · intro position hposition other hother
      rw [List.getElem?_append_left hposition] at hother
      exact hbefore other (List.mem_of_getElem? hother)
    · rw [runSteps, hsteps, Nat.zero_add]

/-- The first rejected entry counts, not the steps before it that would have failed. -/
theorem runSteps_sample_of_rejected :
    sample.runSteps (Console.sink false)
        [.object [("nowhere", .null)], .object [("stop", .null)], .object [], .null] none 0 "" =
      ⟨.error (.format 2 .empty), 0, "", []⟩ := by
  obtain ⟨index, entry, cause, hget, hcause, hfirst, hrun⟩ :=
    sample.runSteps_of_rejected (Console.sink false)
      [.object [("nowhere", .null)], .object [("stop", .null)], .object [], .null] none 0 ""
      ⟨.object [], by simp, .empty, rfl⟩
  rw [hrun]
  match index with
  | 0 => cases hget; cases hcause
  | 1 => cases hget; cases hcause
  | 2 => cases hget; cases hcause; rfl
  | index + 3 =>
    obtain ⟨step, hstep⟩ := hfirst 2 (by omega) (.object []) rfl
    cases hstep

end Runbook.Pipeline
