import Runbook.Cli.Perform
import Runbook.Proofs.Pipeline.Parameters
import Runbook.Proofs.Resolution.Listing

/-! # What a review says about runs

A review looks at raw entries and at nothing else. Yet it foretells something of every run of these
entries, whatever registry, environment, store, earlier outputs and sink that run has.

* **`Review.problems_findings`** — the problems are the rejected entries and the malformed
  placeholders of the others.
* **`Resolution.expression_eq_malformed_iff`** — a placeholder is malformed in a run exactly if it has
  the shape of no reference.
* **`Review.problems_foretell_runs`** — without a problem no run fails for the shape of an entry or a
  placeholder, and with one no run succeeds. -/

namespace Runbook

/-! ## Malformed placeholders -/

namespace Resolution

variable {sources : Sources}

/-- A part of a value is there or not, but never malformed. -/
theorem field_ne_malformed (text : String) (value : Json) (path : List String) (inner : String) :
    field text value path ≠ .error (.malformed inner) := by
  rw [field]
  cases value.select? path <;> nofun

/-- A reference is answered or not, but never malformed. -/
theorem reference_ne_malformed (text : String) (target : Reference) (inner : String) :
    reference sources text target ≠ .error (.malformed inner) := by
  match target with
  | .block type name path =>
    rw [reference]
    cases sources.store.readBlock type name with
    | error cause => nofun
    | ok document =>
      cases path with
      | nil => nofun
      | cons segment rest => exact field_ne_malformed text document (segment :: rest) inner
  | .variable name path =>
    rw [reference]
    cases sources.store.readVariable name with
    | error cause => nofun
    | ok value => exact field_ne_malformed text value path inner
  | .environment name => nofun
  | .output path =>
    rw [reference]
    cases sources.outputs.lookup path <;> nofun

/-- **An expression is malformed exactly if it has the shape of no reference**, in whatever
sources. -/
theorem expression_eq_malformed_iff {text : List Char} {inner : String} :
    expression sources text = .error (.malformed inner) ↔
      Reference.parse? text = none ∧ inner = String.ofList text := by
  rw [expression]
  cases Reference.parse? text with
  | none => simp [eq_comm]
  | some target => simp [reference_ne_malformed]

end Resolution

namespace Review

/-- Whether a placeholder has the shape of no reference. -/
def isMalformed (found : Placeholder) : Bool := (Reference.parse? found.expression.toList).isNone

/-- Whether an entry describes no step. -/
def isRejected (entry : Json) : Bool :=
  match Step.ofEntry entry with
  | .error _ => true
  | .ok _ => false

/-- The placeholders in the parameters of an entry; one that describes no step has none. -/
def placeholdersOf (entry : Json) : List Placeholder :=
  match Step.ofEntry entry with
  | .error _ => []
  | .ok step => placeholders step

end Review

namespace Resolution

variable {sources : Sources} {step : Step}

/-- A listed placeholder is malformed in a run exactly if a review finds it malformed. -/
theorem errorOfListed?_eq_malformed_iff {found : Placeholder} {inner : String} :
    errorOfListed? sources found = some (.malformed inner) ↔
      Review.isMalformed found = true ∧ inner = found.expression := by
  rw [errorOfListed?, errorAt?, errorOf?_eq_some_iff, expression_eq_malformed_iff,
    String.ofList_toList, Review.isMalformed, Option.isNone_iff_eq_none]

/-- Parameters without a malformed placeholder do not fail for one. -/
theorem parameters_ne_malformed
    (h : ∀ found ∈ Review.placeholders step, Review.isMalformed found = false) (inner : String) :
    parameters sources step.parameters ≠ .error (.malformed inner) := by
  intro hfails
  rw [← errorOf?_eq_some_iff, errorOf?_parameters sources step.parameters "parameters"] at hfails
  obtain ⟨found, hmem, hfound⟩ := List.exists_of_findSome?_eq_some hfails
  obtain ⟨hmalformed, -⟩ := errorOfListed?_eq_malformed_iff.mp hfound
  rw [h found hmem] at hmalformed
  exact absurd hmalformed Bool.false_ne_true

/-- Parameters with a malformed placeholder have no value, whatever else there is in them. -/
theorem parameters_ne_ok {found : Placeholder} (hmem : found ∈ Review.placeholders step)
    (h : Review.isMalformed found = true) (fields : Fields) :
    parameters sources step.parameters ≠ .ok fields := by
  intro hok
  have hnone := errorOf?_eq_none_iff.mpr ⟨fields, hok⟩
  rw [errorOf?_parameters sources step.parameters "parameters", List.findSome?_eq_none_iff] at hnone
  have hfound : errorOfListed? sources found = some (.malformed found.expression) :=
    errorOfListed?_eq_malformed_iff.mpr ⟨h, rfl⟩
  rw [hnone found hmem] at hfound
  cases hfound

end Resolution

/-! ## The problems of a review -/

namespace Review

variable {ω : Type} (registry : Registry ω)

/-- The problems of an entry: the entry itself if it is rejected, else its malformed placeholders. -/
theorem problems_ofEntry (index : Nat) (entry : Json) :
    problems (ofEntry registry index entry) =
      (if isRejected entry then 1 else 0) + (placeholdersOf entry).countP isMalformed := by
  rw [ofEntry, isRejected, placeholdersOf, problems]
  cases Step.ofEntry entry with
  | error cause => rfl
  | ok step =>
    have hmap : Finding.isProblem ∘ ofPlaceholder = isMalformed := rfl
    simp [Finding.isProblem, List.countP_map, hmap]

/-- The problems of entries are those of each, wherever the first of them stands. -/
theorem problems_findingsFrom (index : Nat) (entries : List Json) :
    problems (findingsFrom registry index entries) =
      entries.countP isRejected + (entries.flatMap placeholdersOf).countP isMalformed := by
  induction entries generalizing index with
  | nil => rfl
  | cons entry rest ih =>
    have happend : problems (findingsFrom registry index (entry :: rest)) =
        problems (ofEntry registry index entry) +
          problems (findingsFrom registry (index + 1) rest) := List.countP_append
    rw [happend, problems_ofEntry, ih, List.countP_cons, List.flatMap_cons, List.countP_append]
    omega

/-- **The problems are the rejected entries and the malformed placeholders of the others.** The
registry has no part in them. -/
theorem problems_findings (entries : List Json) :
    problems (findings registry entries) =
      entries.countP isRejected + (entries.flatMap placeholdersOf).countP isMalformed :=
  problems_findingsFrom registry 0 entries

variable {registry} {entries : List Json}

/-- A review without problems has accepted every entry and every placeholder. -/
theorem problems_findings_eq_zero_iff :
    problems (findings registry entries) = 0 ↔
      ∀ entry ∈ entries, ∃ step, Step.ofEntry entry = .ok step ∧
        ∀ found ∈ placeholders step, isMalformed found = false := by
  simp only [problems_findings, Nat.add_eq_zero_iff, List.countP_eq_zero, List.mem_flatMap,
    Bool.not_eq_true, forall_exists_index, and_imp]
  constructor
  · rintro ⟨haccepted, hformed⟩ entry hentry
    have hentry' := haccepted entry hentry
    cases hstep : Step.ofEntry entry with
    | error cause => simp [isRejected, hstep] at hentry'
    | ok step =>
      refine ⟨step, rfl, fun found hfound => hformed found entry hentry ?_⟩
      rwa [placeholdersOf, hstep]
  · intro h
    constructor
    · intro entry hentry
      obtain ⟨step, hstep, -⟩ := h entry hentry
      rw [isRejected, hstep]
    · intro found entry hentry hfound
      obtain ⟨step, hstep, hformed⟩ := h entry hentry
      rw [placeholdersOf, hstep] at hfound
      exact hformed found hfound

/-- A command that opens a section and reviews it ends well exactly if there is no problem. -/
theorem code_check_eq_zero_iff [DomainNames] {host : Host ω} {environment : Environment}
    {file name : String} {chosen : Option String} {world : ω}
    (h : Cli.openSection host file chosen world = .ok (name, entries)) :
    (Cli.check host environment file chosen world).1.code = 0 ↔
      problems (findings (Registry.builtin host environment) entries) = 0 := by
  rw [Cli.check, h]
  dsimp only
  cases problems (findings (Registry.builtin host environment) entries) with
  | zero => simp [Cli.reviewFailure, Cli.finish]
  | succ count => simp [Cli.reviewFailure, Cli.finish]

/-! ## What problems foretell -/

section

variable {ν κ : Type} (pipeline : Pipeline ν) (sink : Sink κ) (earlier : Option Outputs) (world : ν)
  (state : κ)

/-- Without a problem no run fails for the shape of an entry or of a placeholder. -/
theorem result_ne_malformed_of_no_problem (h : problems (findings registry entries) = 0) :
    (∀ index cause,
      (pipeline.runSteps sink entries earlier world state).result ≠ .error (.format index cause)) ∧
    ∀ name index inner, (pipeline.runSteps sink entries earlier world state).result ≠
      .error (.step name index (.resolution (.malformed inner))) := by
  rw [problems_findings_eq_zero_iff] at h
  obtain ⟨steps, hsteps⟩ := Pipeline.exists_describe_iff.mpr fun entry hentry =>
    (h entry hentry).imp fun step => And.left
  rw [pipeline.runSteps_of_describe sink hsteps]
  constructor
  · intro index cause hformat
    rcases pipeline.runFrom_conclusion sink 0 (earlier.getD .empty) steps world state with
      ⟨-, -, final, hok⟩ | ⟨before, failed, unvisited, e, -, -, -, -, herror⟩
    · rw [hformat] at hok
      cases hok
    · rw [hformat] at herror
      cases herror
  · intro name index inner hmalformed
    obtain ⟨step, hstep, sources, hparameters⟩ := Pipeline.mem_of_result_eq_resolution hmalformed
    obtain ⟨entry, hentry, hdescribes⟩ := (Pipeline.mem_of_describe hsteps).2 step hstep
    obtain ⟨reviewed, hreviewed, hformed⟩ := h entry hentry
    rw [hdescribes] at hreviewed
    cases hreviewed
    exact Resolution.parameters_ne_malformed hformed inner hparameters

/-- With a problem no run succeeds. -/
theorem result_ne_ok_of_problem (h : problems (findings registry entries) ≠ 0) (final : Outputs) :
    (pipeline.runSteps sink entries earlier world state).result ≠ .ok final := by
  intro hok
  obtain ⟨steps, hsteps, hrun⟩ := Pipeline.describe_of_result_eq_ok hok
  refine h (problems_findings_eq_zero_iff.mpr fun entry hentry => ?_)
  obtain ⟨step, hstep, hdescribes⟩ := (Pipeline.mem_of_describe hsteps).1 entry hentry
  obtain ⟨sources, fields, hfields⟩ := Pipeline.parameters_of_result_eq_ok hrun step hstep
  refine ⟨step, hdescribes, fun found hfound => Bool.eq_false_iff.mpr fun hmalformed => ?_⟩
  exact Resolution.parameters_ne_ok hfound hmalformed fields hfields

end

/-- **A review foretells every run of the entries that it looks at.** Its problems are the rejected
entries and the malformed placeholders of the accepted ones. If there is none, a run may still fail,
but not because an entry describes no step or a placeholder is no reference; if there is one, no run
succeeds. This holds for every registry, environment, store, earlier outputs and sink of the run, and
the command that reviews a section ends well in the first case and fails in the second. -/
theorem problems_foretell_runs (registry : Registry ω) (entries : List Json) :
    problems (findings registry entries) =
        entries.countP isRejected + (entries.flatMap placeholdersOf).countP isMalformed ∧
      (problems (findings registry entries) = 0 →
        ∀ {ν κ : Type} (pipeline : Pipeline ν) (sink : Sink κ) (earlier : Option Outputs) (world : ν)
          (state : κ),
          (∀ index cause, (pipeline.runSteps sink entries earlier world state).result ≠
            .error (.format index cause)) ∧
          ∀ name index inner, (pipeline.runSteps sink entries earlier world state).result ≠
            .error (.step name index (.resolution (.malformed inner)))) ∧
      (problems (findings registry entries) ≠ 0 →
        ∀ {ν κ : Type} (pipeline : Pipeline ν) (sink : Sink κ) (earlier : Option Outputs) (world : ν)
          (state : κ) (final : Outputs),
          (pipeline.runSteps sink entries earlier world state).result ≠ .ok final) ∧
      ∀ [DomainNames] {ν : Type} (host : Host ν) (environment : Environment) (file name : String)
        (chosen : Option String) (world : ν),
        Cli.openSection host file chosen world = .ok (name, entries) →
          ((Cli.check host environment file chosen world).1.code = 0 ↔
            problems (findings registry entries) = 0) := by
  refine ⟨problems_findings registry entries, ?_, ?_, ?_⟩
  · intro hnone ν κ pipeline sink earlier world state
    exact result_ne_malformed_of_no_problem pipeline sink earlier world state hnone
  · intro hsome ν κ pipeline sink earlier world state final
    exact result_ne_ok_of_problem pipeline sink earlier world state hsome final
  · intro names ν host environment file name chosen world hopen
    rw [code_check_eq_zero_iff hopen, problems_findings, problems_findings]

/-- Entries with three problems: two placeholders of the first are no references, and the last
describes no step. -/
def faultyEntries : List Json :=
  [.object [("greet", .object [("x", .string "\x7b\x7b a..b \x7d\x7d for \x7b\x7b $USER \x7d\x7d"),
      ("y", .array [.string "\x7b\x7b store.blocks.secret \x7d\x7d"])])],
    .object [("stop", .null)], .object [("greet", .null), ("stop", .null)]]

/-- A failing step is no problem of a review, and what is one keeps all steps from running. -/
theorem problems_foretell_sample_runs :
    problems (findings Pipeline.sample.registry Pipeline.sampleEntries) = 0 ∧
      (∀ index cause, (Pipeline.sample.runSteps (Console.sink false) Pipeline.sampleEntries none 0
        "").result ≠ .error (.format index cause)) ∧
      problems (findings Pipeline.sample.registry faultyEntries) = 3 ∧
      ∀ final, (Pipeline.sample.runSteps (Console.sink false) faultyEntries none 0 "").result ≠
        .ok final := by
  obtain ⟨-, hsound, -, -⟩ :=
    problems_foretell_runs Pipeline.sample.registry Pipeline.sampleEntries
  obtain ⟨hcount, -, hcomplete, -⟩ := problems_foretell_runs Pipeline.sample.registry faultyEntries
  have hnone : problems (findings Pipeline.sample.registry Pipeline.sampleEntries) = 0 := rfl
  have hthree : problems (findings Pipeline.sample.registry faultyEntries) = 3 := hcount.trans rfl
  refine ⟨hnone, (hsound hnone Pipeline.sample (Console.sink false) none 0 "").1, hthree, ?_⟩
  exact hcomplete (by rw [hthree]; decide) Pipeline.sample (Console.sink false) none 0 ""

end Review

end Runbook
