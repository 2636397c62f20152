import Runbook.Proofs.Resolution.Listing
import Runbook.Store.Table

/-! # A tree sees only what it names

Two sources may hold different secrets, variables and outputs. As long as they give the same answers
to the references among the placeholders of a tree, the tree has the same value in both, or fails with
the same error.

* **`Reference.ReadAlike`** — two sources give the same answer to what a reference reads.
* **`Resolution.expression_congr`** — an expression reads nothing beyond its reference.
* **`Resolution.value_sees_only_references`** — a tree reads nothing beyond the references that are
  listed for it. -/

namespace Runbook

/-- **Two sources give the same answer to what a reference reads.** A path behind a block or a
variable selects a part of the answer and is no question of its own. -/
def Reference.ReadAlike (first second : Sources) : Reference → Prop
  | .block type name _ => first.store.readBlock type name = second.store.readBlock type name
  | .variable name _ => first.store.readVariable name = second.store.readVariable name
  | .environment name => first.environment.value? name = second.environment.value? name
  | .output path => first.outputs.lookup path = second.outputs.lookup path

namespace Placeholder

/-! ## What is listed for a part of a tree -/

/-- What is listed for an item is listed for the sequence. -/
theorem exists_collect_subset_collectItems {item : Json} {items : List Json} (h : item ∈ items)
    (place : String) (index : Nat) :
    ∃ inner, collect inner item ⊆ collectItems place index items := by
  induction items generalizing index with
  | nil => exact absurd h List.not_mem_nil
  | cons first rest ih =>
    rw [collectItems]
    rcases List.mem_cons.mp h with rfl | h
    · exact ⟨itemPlace place index, List.subset_append_left _ _⟩
    · obtain ⟨inner, hinner⟩ := ih h (index + 1)
      exact ⟨inner, List.subset_append_of_subset_right _ hinner⟩

/-- What is listed for the value of a member is listed for the mapping. -/
theorem exists_collect_subset_collectFields {field : String × Json} {fields : Fields}
    (h : field ∈ fields) (place : String) :
    ∃ inner, collect inner field.2 ⊆ collectFields place fields := by
  induction fields with
  | nil => exact absurd h List.not_mem_nil
  | cons first rest ih =>
    obtain ⟨key, value⟩ := first
    rw [collectFields]
    rcases List.mem_cons.mp h with rfl | h
    · exact ⟨memberPlace place key, List.subset_append_left _ _⟩
    · obtain ⟨inner, hinner⟩ := ih h
      exact ⟨inner, List.subset_append_of_subset_right _ hinner⟩

end Placeholder

namespace Resolution

variable {first second : Sources}

/-! ## Expressions -/

/-- A reference has the same value wherever it is answered alike. -/
theorem reference_congr {target : Reference} (h : target.ReadAlike first second) (text : String) :
    reference first text target = reference second text target := by
  match target, h with
  | .block type name path, h =>
    have hblock : first.store.readBlock type name = second.store.readBlock type name := h
    rw [reference, reference, hblock]
  | .variable name path, h =>
    have hvariable : first.store.readVariable name = second.store.readVariable name := h
    rw [reference, reference, hvariable]
  | .environment name, h =>
    have hvalue : first.environment.value? name = second.environment.value? name := h
    rw [reference, reference, hvalue]
  | .output path, h =>
    have hlookup : first.outputs.lookup path = second.outputs.lookup path := h
    rw [reference, reference, hlookup]

/-- **An expression reads nothing beyond its reference**, and one without a reference reads nothing
at all. -/
theorem expression_congr {text : List Char}
    (h : ∀ target, Reference.parse? text = some target → target.ReadAlike first second) :
    expression first text = expression second text := by
  rw [expression, expression]
  cases hparse : Reference.parse? text with
  | none => rfl
  | some target => exact reference_congr (h target hparse) (String.ofList text)

/-! ## Texts -/

/-- Pieces become the same text if their expressions have the same values. -/
theorem substitute_congr {pieces : List Segment}
    (h : ∀ text ∈ Template.expressions pieces, expression first text = expression second text) :
    substitute first pieces = substitute second pieces := by
  induction pieces with
  | nil => rfl
  | cons piece rest ih =>
    cases piece with
    | literal text => rw [substitute, substitute, ih h]
    | placeholder inner =>
      obtain ⟨hinner, hrest⟩ := List.forall_mem_cons.mp h
      rw [substitute, substitute, hinner, ih hrest]

/-- A text has the same value if its placeholders have. -/
theorem string_congr {text : List Char}
    (h : ∀ inner ∈ Template.placeholders text, expression first inner = expression second inner) :
    string first text = string second text := by
  rw [Template.placeholders] at h
  rw [string, string]
  split
  · rename_i inner hsole
    rw [hsole] at h
    exact h inner List.mem_cons_self
  · rw [substitute_congr h]

/-! ## Trees -/

/-- Items have the same values if each of them has. -/
theorem valueItems_congr {items : List Json}
    (h : ∀ item ∈ items, value first item = value second item) :
    valueItems first items = valueItems second items := by
  induction items with
  | nil => rfl
  | cons item rest ih =>
    obtain ⟨hitem, hrest⟩ := List.forall_mem_cons.mp h
    rw [valueItems, valueItems, hitem, ih hrest]

/-- Members have the same values if each of them has. -/
theorem valueFields_congr {fields : Fields}
    (h : ∀ field ∈ fields, value first field.2 = value second field.2) :
    valueFields first fields = valueFields second fields := by
  induction fields with
  | nil => rfl
  | cons field rest ih =>
    obtain ⟨key, member⟩ := field
    obtain ⟨hmember, hrest⟩ := List.forall_mem_cons.mp h
    rw [valueFields, valueFields, hmember, ih hrest]

/-- **A tree has the same value if its listed expressions have.** -/
theorem value_congr {tree : Json} {place : String}
    (h : ∀ found ∈ Placeholder.collect place tree,
      expression first found.expression.toList = expression second found.expression.toList) :
    value first tree = value second tree := by
  induction tree generalizing place with
  | null => rfl
  | bool value => rfl
  | number value => rfl
  | string text =>
    rw [value, value]
    refine string_congr fun inner hinner => ?_
    have hlisted := h _ (List.mem_map_of_mem hinner)
    rwa [String.toList_ofList] at hlisted
  | array items ih =>
    rw [value, value]
    refine congrArg _ (valueItems_congr fun item hitem => ?_)
    obtain ⟨inner, hlisted⟩ := Placeholder.exists_collect_subset_collectItems hitem place 0
    exact ih item hitem fun found hfound => h found (hlisted hfound)
  | object fields ih =>
    rw [value, value]
    refine congrArg _ (valueFields_congr fun field hfield => ?_)
    obtain ⟨inner, hlisted⟩ := Placeholder.exists_collect_subset_collectFields hfield place
    exact ih field hfield fun found hfound => h found (hlisted hfound)

/-- Parameters have the same values wherever their listed references are answered alike. -/
theorem parameters_congr {fields : Fields} {place : String}
    (h : ∀ found ∈ Placeholder.collect place (.object fields), ∀ target,
      Reference.parse? found.expression.toList = some target → target.ReadAlike first second) :
    parameters first fields = parameters second fields := by
  rw [parameters, parameters]
  refine valueFields_congr fun field hfield => ?_
  obtain ⟨inner, hlisted⟩ := Placeholder.exists_collect_subset_collectFields hfield place
  have hvalues : ∀ found ∈ Placeholder.collect inner field.2,
      expression first found.expression.toList = expression second found.expression.toList :=
    fun found hfound => expression_congr (h found (hlisted hfound))
  exact value_congr hvalues

/-- **A tree sees only what it names.** Two sources that give the same answer to each reference among
the listed placeholders of a tree give it the same value, or the same error. Secrets, variables and
outputs that no reference names may differ as they like. -/
theorem value_sees_only_references (first second : Sources) (tree : Json) (place : String)
    (h : ∀ found ∈ Placeholder.collect place tree, ∀ target,
      Reference.parse? found.expression.toList = some target → target.ReadAlike first second) :
    value first tree = value second tree :=
  value_congr fun found hfound => expression_congr (h found hfound)

/-- Sources with a secret beside what the tree of the example names. -/
def sourcesWithSecret (secret : String) : Sources where
  outputs := (Outputs.seeded [("hidden", .string secret)]).record (some "clone")
    (.object [("directory", .string "api"), ("key", .string secret)])
  environment := .ofList [("TOKEN", secret)]
  store := ((TableStore.empty.insertBlock "git" "ci" (.object [("user", .string "robot")])).insertBlock
    "git" "root" (.object [("password", .string secret)])).toStore

/-- A tree with references into all that it may see, one of them without an answer. -/
def treeWithoutSecret : Json :=
  .object [("cwd", .string "\x7b\x7b clone.directory \x7d\x7d"),
    ("env", .array [.string "\x7b\x7b $STAGE \x7d\x7d-\x7b\x7b store.blocks.git.ci.user \x7d\x7d",
      .string "\x7b\x7b store.variables.region \x7d\x7d"])]

/-- The secret shows neither in what can be resolved nor in the error for what cannot. -/
theorem value_treeWithoutSecret :
    (∀ found ∈ Placeholder.collect "parameters" treeWithoutSecret, ∀ target,
      Reference.parse? found.expression.toList = some target →
        target.ReadAlike (sourcesWithSecret "one") (sourcesWithSecret "two")) ∧
    value (sourcesWithSecret "one") treeWithoutSecret =
      value (sourcesWithSecret "two") treeWithoutSecret := by
  have halike : ∀ found ∈ Placeholder.collect "parameters" treeWithoutSecret, ∀ target,
      Reference.parse? found.expression.toList = some target →
        target.ReadAlike (sourcesWithSecret "one") (sourcesWithSecret "two") := by
    have hlisted : Placeholder.collect "parameters" treeWithoutSecret =
        [⟨"parameters.cwd", "clone.directory"⟩, ⟨"parameters.env[0]", "$STAGE"⟩,
          ⟨"parameters.env[0]", "store.blocks.git.ci.user"⟩,
          ⟨"parameters.env[1]", "store.variables.region"⟩] := by decide +kernel
    simp only [hlisted, List.forall_mem_cons]
    refine ⟨?_, ?_, ?_, ?_, fun found h => absurd h List.not_mem_nil⟩
    all_goals
      intro target hparse
      cases hparse
      rfl
  exact ⟨halike, value_sees_only_references _ _ treeWithoutSecret "parameters" halike⟩

end Resolution

end Runbook
