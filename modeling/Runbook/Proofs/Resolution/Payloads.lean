import Runbook.Proofs.Reference.Rendering
import Runbook.Resolution
import Runbook.Store.Environment

/-! # Blocks behind the environment

A block of an environment store is the text of one environment variable. The store makes every text a
mapping, and a reference to the whole block takes back what was added for that.

* **`EnvironmentStore.blockVariable_eq_of_lowerAscii_eq`** — the case of letters does not change the
  variable of a block.
* **`Resolution.collapse_document`** — a value that is made a mapping is found again as a whole.
* **`Resolution.Delivers`** — what templates see of a value.
* **`Resolution.delivers_of_environment`** — they see the value that the text of the block is. -/

namespace Runbook

/-! ## Variables of blocks -/

/-- A name in another case stands between dots too. -/
theorem Reference.IsName.of_lowerAscii_eq {type variant : String} (h : IsName type)
    (hvariant : Text.lowerAscii variant = Text.lowerAscii type) : IsName variant where
  ne_empty := fun hempty => h.ne_empty <| Text.lowerAscii_eq_empty_iff.mp <| by
    rw [← hvariant, Text.lowerAscii_eq_empty_iff, hempty]
  dot_notMem := fun hdot => h.dot_notMem <| (Text.mem_lowerAscii_iff rfl).mp <| by
    rw [← hvariant, Text.mem_lowerAscii_iff rfl]
    exact hdot

namespace EnvironmentStore

/-- **The variable of a block does not tell cases apart.** -/
theorem blockVariable_eq_of_lowerAscii_eq {type variant : String}
    (h : Text.lowerAscii variant = Text.lowerAscii type) (name : String) :
    blockVariable variant name = blockVariable type name := by
  have hkey : keyPart variant.toList = keyPart type.toList := by
    refine Text.map_toList_eq_of_lowerAscii_eq (fun c => ?_) h
    rw [Text.isAlphanum_toLower, Text.toUpper_toLower]
  simp only [blockVariable, entryVariable, List.flatMap_cons, hkey]

/-- The block of a set variable is the document of its text. -/
theorem readBlock_of_value? {environment : Environment} {type name text : String}
    (hbackend : SecretsBackend.ofEnvironment environment = .environment)
    (htext : environment.value? (blockVariable type name) = some text) :
    (ofEnvironment environment).toStore.readBlock type name = .ok (document (Json.ofPayload text)) := by
  simp only [toStore, readBlock, ofEnvironment, hbackend, htext]

end EnvironmentStore

namespace Resolution

open EnvironmentStore (document)
open Reference (blockText)

/-! ## Values of blocks -/

/-- **Making a value a mapping is undone for the whole of a block**, unless the value looks as if it had
been made one. -/
theorem collapse_document {value : Json} (h : ∀ inner, value ≠ .object [("value", inner)]) :
    collapse (document value) = value := by
  cases value with
  | object fields =>
    rw [document, collapse]
    exact h
  | _ => rfl

theorem document_of_ne {value : Json} (h : ∀ fields, value ≠ .object fields) :
    document value = .object [("value", value)] := by
  cases value with
  | object fields => exact absurd rfl (h fields)
  | _ => rfl

/-- The value of a block as a whole. -/
theorem expression_block {sources : Sources} {type name : String} {value : Json}
    (htype : Reference.IsName type) (hname : Reference.IsName name)
    (htrim : Text.IsTrimmed name.toList) (hread : sources.store.readBlock type name = .ok value) :
    expression sources (blockText type name).toList = .ok (collapse value) := by
  have htrimmed := Reference.isTrimmed_blockText hname htrim type []
  have hparse := Reference.parse?_of_trim_block htype hname (Text.trim_eq_self htrimmed)
  rw [Reference.pathText?, Reference.behind, List.append_nil] at hparse
  rw [expression, hparse]
  simp only [Reference.optionalPath?, Option.map_some, reference, hread]

/-- The value of a path into a block. -/
theorem expression_block_path {sources : Sources} {type name text : String} {value : Json}
    {path : List String} (htype : Reference.IsName type) (hname : Reference.IsName name)
    (hread : sources.store.readBlock type name = .ok value)
    (hpath : Path.parse? (Text.trimEnd text.toList) = some path) :
    expression sources (blockText type name ++ "." ++ text).toList =
      field (blockText type name ++ "." ++ text) value path := by
  have htext : (blockText type name ++ "." ++ text).toList =
      (blockText type name).toList ++ '.' :: text.toList := by
    simp
  have hne : (blockText type name).toList ≠ [] := by
    rw [Reference.toList_blockText]
    exact List.cons_ne_nil _ _
  have hhead : ∀ c ∈ (blockText type name).toList.head?, Text.isBlank c = false := by
    rw [Reference.toList_blockText]
    exact Text.forall_mem_head?_cons (by decide) _
  have htrim : Text.trim (blockText type name ++ "." ++ text).toList =
      (blockText type name).toList ++ Reference.behind (some (Text.trimEnd text.toList)) := by
    rw [htext]
    exact Text.trim_append_cons hne hhead (by decide) text.toList
  have hparse := Reference.parse?_of_trim_block htype hname htrim
  rw [Reference.optionalPath?, hpath, Option.map_some] at hparse
  rw [expression, hparse, String.ofList_toList]
  cases path with
  | nil => exact absurd rfl (Path.shape_of_parse? hpath).1
  | cons segment rest => simp only [reference, hread]

/-! ## Values of payloads -/

/-- **What templates see of a value that a block holds**: the value itself for the whole of the block,
unless it is a mapping with no member but `value`, which stands for that member (and no more than that
one is taken away); and for a path what it selects, in the value if it is a mapping and else in the
mapping of which the value is the `value`. -/
structure Delivers (sources : Sources) (block : String) (value : Json) : Prop where
  whole : (∀ inner, value ≠ .object [("value", inner)]) →
    expression sources block.toList = .ok value
  inner : ∀ inner, value = .object [("value", inner)] →
    expression sources block.toList = .ok inner
  field_of_mapping : ∀ fields, value = .object fields → ∀ text path,
    Path.parse? (Text.trimEnd text.toList) = some path →
      expression sources (block ++ "." ++ text).toList =
        match value.select? path with
        | some part => .ok part
        | none => .error (.missingField (block ++ "." ++ text))
  field_of_secret : (∀ fields, value ≠ .object fields) → ∀ text path,
    Path.parse? (Text.trimEnd text.toList) = some path →
      expression sources (block ++ "." ++ text).toList =
        match (Json.object [("value", value)]).select? path with
        | some part => .ok part
        | none => .error (.missingField (block ++ "." ++ text))

theorem delivers_of_readBlock {sources : Sources} {type name : String} {value : Json}
    (htype : Reference.IsName type) (hname : Reference.IsName name)
    (htrim : Text.IsTrimmed name.toList)
    (hread : sources.store.readBlock type name = .ok (document value)) :
    Delivers sources (blockText type name) value where
  whole := fun h => by
    rw [expression_block htype hname htrim hread, collapse_document h]
  inner := fun inner h => by
    rw [expression_block htype hname htrim hread, h]
    rfl
  field_of_mapping := fun fields h text path hpath => by
    subst h
    exact expression_block_path htype hname hread hpath
  field_of_secret := fun h text path hpath => by
    rw [document_of_ne h] at hread
    exact expression_block_path htype hname hread hpath

/-- **Payloads reach templates as they are.** In an environment that chooses itself as the backend, let
the variable of a block have a text, and let the type and the name of the block stand between dots. A
reference to the block, with its type in any case, gives templates the value that the text is as a data
text, or the untrimmed text itself if it is none. -/
theorem delivers_of_environment {environment : Environment} {sources : Sources}
    {type variant name text : String}
    (hbackend : SecretsBackend.ofEnvironment environment = .environment)
    (hstore : sources.store = (EnvironmentStore.ofEnvironment environment).toStore)
    (htype : Reference.IsName type) (hname : Reference.IsName name)
    (htrim : Text.IsTrimmed name.toList)
    (htext : environment.value? (EnvironmentStore.blockVariable type name) = some text)
    (hvariant : Text.lowerAscii variant = Text.lowerAscii type) :
    Delivers sources (blockText variant name) ((Json.parse? text).getD (.string text)) := by
  have hread : sources.store.readBlock variant name = .ok (document (Json.ofPayload text)) := by
    rw [← EnvironmentStore.blockVariable_eq_of_lowerAscii_eq hvariant] at htext
    rw [hstore, EnvironmentStore.readBlock_of_value? hbackend htext]
  exact delivers_of_readBlock (htype.of_lowerAscii_eq hvariant) hname htrim hread

/-- A mapping with no member but `value`, twice over. -/
def tokenText : String := "\x7b\"value\": \x7b\"value\": [\"s\"]\x7d\x7d"

/-- An environment with two blocks, of which one is no data text. -/
def secretsEnvironment : Environment :=
  .ofList [("RIGGER_SECRETS_BACKEND", " ENV "),
    ("RIGGER_BLOCK_SECRET_DEPLOY_TOKEN", tokenText),
    ("RIGGER_BLOCK_SECRET_CI", " \"s ")]

/-- Its blocks, where no step has an output. -/
def secretsSources : Sources :=
  ⟨.empty, secretsEnvironment, (EnvironmentStore.ofEnvironment secretsEnvironment).toStore⟩

/-- One `value` is taken away and the other is not, and both can be selected. -/
theorem delivers_secretsEnvironment :
    expression secretsSources "store.blocks.Secret.deploy-token".toList =
        .ok (.object [("value", .array [.string "s"])]) ∧
      expression secretsSources "store.blocks.SECRET.deploy-token.value[value].0 ".toList =
        .ok (.string "s") ∧
      expression secretsSources "store.blocks.secret.ci".toList = .ok (.string " \"s ") ∧
      expression secretsSources "store.blocks.secret.ci.token".toList =
        .error (.missingField "store.blocks.secret.ci.token") := by
  have hbackend : SecretsBackend.ofEnvironment secretsEnvironment = .environment := by decide +kernel
  have htype : Reference.IsName "secret" := by decide +kernel
  have htoken : secretsEnvironment.value? (EnvironmentStore.blockVariable "secret" "deploy-token") =
      some tokenText := by decide +kernel
  have hci : secretsEnvironment.value? (EnvironmentStore.blockVariable "secret" "ci") =
      some " \"s " := by decide +kernel
  have htokenValue : (Json.parse? tokenText).getD (.string tokenText) =
      .object [("value", .object [("value", .array [.string "s"])])] := by decide +kernel
  have hciValue : (Json.parse? " \"s ").getD (.string " \"s ") = .string " \"s " := by
    decide +kernel
  have hdeliver : ∀ variant, Text.lowerAscii variant = Text.lowerAscii "secret" →
      Delivers secretsSources (blockText variant "deploy-token")
        (.object [("value", .object [("value", .array [.string "s"])])]) := by
    intro variant hvariant
    rw [← htokenValue]
    exact delivers_of_environment hbackend rfl htype (by decide +kernel) (by decide +kernel) htoken
      hvariant
  have hdeliverCi : Delivers secretsSources (blockText "secret" "ci") (.string " \"s ") := by
    rw [← hciValue]
    exact delivers_of_environment hbackend rfl htype (by decide +kernel) (by decide +kernel) hci rfl
  refine ⟨(hdeliver "Secret" (by decide +kernel)).inner _ rfl, ?_,
    hdeliverCi.whole (fun _ => nofun), ?_⟩
  · exact (hdeliver "SECRET" (by decide +kernel)).field_of_mapping _ rfl "value[value].0 "
      ["value", "value", "0"] (by decide +kernel)
  · exact hdeliverCi.field_of_secret (fun _ => nofun) "token" ["token"] (by decide +kernel)

end Resolution

end Runbook
