import Mathlib.Data.List.Find
import Runbook.Clone.Plan
import Runbook.Proofs.Json.Fields

/-! # Spellings of a token

A token may be given to a clone in three ways: as a parameter of its own, which is deprecated, as a
mapping under `credentials`, or as a text there. The plan is the same, and so is the error.

* **`Schema.check_insert`** — a new member that is accepted makes no difference to the check.
* **`ClonePlan.planWith`** — what becomes of parameters together with a token.
* **`ClonePlan.ofParameters_token_spellings`** — the three spellings differ in the notice alone. -/

namespace Runbook

/-! ## One more member -/

section

variable {fields : Fields} {key name : String} {value : Json}

theorem Fields.contains_insert_of_ne (h : name ≠ key) :
    Fields.contains (Fields.insert fields key value) name = Fields.contains fields name := by
  rw [Fields.contains, Fields.get?_insert, if_neg h, Fields.contains]

/-- A field is missing as before, if the new member is not required. -/
theorem Schema.missing?_insert {schema : Schema}
    (h : ∀ rule ∈ schema, rule.name = key → rule.required = false) :
    schema.missing? (Fields.insert fields key value) = schema.missing? fields := by
  have hsame : ∀ rule ∈ schema,
      (rule.required && !Fields.contains (Fields.insert fields key value) rule.name)
        = (rule.required && !Fields.contains fields rule.name) := by
    intro rule hrule
    by_cases hname : rule.name = key
    · rw [h rule hrule hname, Bool.false_and, Bool.false_and]
    · rw [Fields.contains_insert_of_ne hname]
  rw [missing?, missing?, List.find?_congr hsame]

/-- **A new member that is accepted makes no difference to the check**, unless it is required. -/
theorem Schema.check_insert {schema : Schema} (hkey : key ∉ Fields.keys fields)
    (haccepted : schema.offence? key value = none)
    (h : ∀ rule ∈ schema, rule.name = key → rule.required = false) :
    schema.check (Fields.insert fields key value) = schema.check fields := by
  rw [check, check, Fields.findSome?_insert hkey haccepted, missing?_insert h]

theorem Decoding.text?_insert_of_ne (h : name ≠ key) :
    text? (Fields.insert fields key value) name = text? fields name := by
  rw [text?, Fields.get?_insert, if_neg h, text?]

theorem Decoding.flag_insert_of_ne (h : name ≠ key) (default : Bool) :
    flag (Fields.insert fields key value) name default = flag fields name default := by
  rw [flag, Fields.get?_insert, if_neg h, flag]

theorem Decoding.value?_insert_of_ne (h : name ≠ key) :
    value? (Fields.insert fields key value) name = value? fields name := by
  rw [value?, Fields.get?_insert, if_neg h, value?]

theorem Fields.get?_of_notMem (h : key ∉ Fields.keys fields) : Fields.get? fields key = none := by
  rw [Option.eq_none_iff_forall_ne_some]
  exact fun value hvalue => h (Fields.mem_keys_iff.mpr ⟨value, hvalue⟩)

end

/-! ## Plans -/

namespace ClonePlan

variable {fields : Fields} {key token : String} {value : Json} {notices : List Diagnostic}

/-- The parameters that give a token or credentials. -/
def credentialKeys : List String := ["access_token", "credentials"]

/-- A plan looks at no other parameters than those of the schema, and at credentials apart. -/
theorem build_insert [DomainNames] (hkey : key ∈ credentialKeys) (credentials? : Option Credentials) :
    build (Fields.insert fields key value) credentials? = build fields credentials? := by
  have hne (name : String) (hname : name ∉ credentialKeys) : name ≠ key := fun heq =>
    hname (heq ▸ hkey)
  unfold build
  rw [Decoding.text?_insert_of_ne (hne "repository" (by decide)),
    Decoding.text?_insert_of_ne (hne "branch" (by decide)),
    Decoding.flag_insert_of_ne (hne "include_submodules" (by decide))]

/-- Parameters are decoded with a token or credentials as they are without. -/
theorem check_insert (hkey : key ∈ credentialKeys) (hnew : key ∉ Fields.keys fields)
    (haccepted : schema.offence? key value = none) :
    schema.check (Fields.insert fields key value) = schema.check fields := by
  have hoptional : ∀ rule ∈ schema, rule.name ∈ credentialKeys → rule.required = false := by decide
  exact Schema.check_insert hnew haccepted fun rule hrule hname => hoptional rule hrule (hname ▸ hkey)

/-- What becomes of parameters together with a token, and the notices that the token raises. -/
def planWith [DomainNames] (fields : Fields) (token : String) (notices : List Diagnostic) :
    Except CloneError ClonePlan × List Diagnostic :=
  match schema.check fields with
  | .error e => (.error (.parameters e), [])
  | .ok () => (build fields (some (.ofToken token)), notices)

/-- **Parameters with one more member that gives a token.** They are decoded like those without it,
and the plan is built with the token. -/
theorem ofParameters_insert [DomainNames] (hkey : key ∈ credentialKeys) (hnew : key ∉ Fields.keys fields)
    (haccepted : schema.offence? key value = none)
    (hgives : credentialsOf (Fields.insert fields key value) =
      (.ok (some (.ofToken token)), notices)) :
    ofParameters (Fields.insert fields key value) = planWith fields token notices := by
  rw [ofParameters, planWith, check_insert hkey hnew haccepted, hgives]
  cases schema.check fields with
  | error e => rfl
  | ok _ => exact congrArg (·, notices) (build_insert hkey _)

/-- A token that is a parameter of its own raises a notice. -/
theorem ofParameters_insert_token [DomainNames] (token : String)
    (htoken : "access_token" ∉ Fields.keys fields) (hcredentials : "credentials" ∉ Fields.keys fields) :
    ofParameters (Fields.insert fields "access_token" (.string token)) =
      planWith fields token [tokenNotice] := by
  have htext : Decoding.text? (Fields.insert fields "access_token" (.string token)) "access_token" =
      some token := by
    rw [Decoding.text?, Fields.get?_insert, if_pos rfl]
  have hvalue : Decoding.value? (Fields.insert fields "access_token" (.string token)) "credentials" =
      none := by
    rw [Decoding.value?_insert_of_ne (by decide), Decoding.value?, Fields.get?_of_notMem hcredentials]
  refine ofParameters_insert (by decide) htoken rfl ?_
  rw [credentialsOf, htext, hvalue]

/-- A token that is given by credentials raises none. -/
theorem ofParameters_insert_credentials [DomainNames]
    (htoken : "access_token" ∉ Fields.keys fields) (hcredentials : "credentials" ∉ Fields.keys fields)
    (hvalue : Credentials.ofJson value = .ok (some (.ofToken token))) :
    ofParameters (Fields.insert fields "credentials" value) = planWith fields token [] := by
  have htext : Decoding.text? (Fields.insert fields "credentials" value) "access_token" = none := by
    rw [Decoding.text?_insert_of_ne (by decide), Decoding.text?, Fields.get?_of_notMem htoken]
  have hsome : Decoding.value? (Fields.insert fields "credentials" value) "credentials" =
      some value := by
    rw [Decoding.value?, Fields.get?_insert, if_pos rfl]
    cases value with
    | null => cases hvalue
    | bool _ | number _ | string _ | array _ | object _ => rfl
  refine ofParameters_insert (by decide) hcredentials rfl ?_
  rw [credentialsOf, htext, hsome]
  exact congrArg (·, []) hvalue

/-- **A token has three spellings.** Take any parameters, valid or not, that hold neither a token nor
credentials. With a token as a parameter of its own, with the token in a mapping under `credentials`
and with the token as a text there, the plan is the same, or else the error. All three are decoded as
the parameters are without the token. Only the first spelling raises a notice, a single deprecation,
and it does so exactly if the parameters can be decoded, whatever comes of the plan. -/
theorem ofParameters_token_spellings [DomainNames] (fields : Fields) (token : String)
    (htoken : "access_token" ∉ Fields.keys fields)
    (hcredentials : "credentials" ∉ Fields.keys fields) :
    let legacy := Fields.insert fields "access_token" (.string token)
    let mapping := Fields.insert fields "credentials" (.object [("access_token", .string token)])
    let text := Fields.insert fields "credentials" (.string token)
    ((ofParameters legacy).1 = (ofParameters mapping).1 ∧
        (ofParameters legacy).1 = (ofParameters text).1) ∧
      (schema.check legacy = schema.check fields ∧ schema.check mapping = schema.check fields ∧
        schema.check text = schema.check fields) ∧
      ((ofParameters mapping).2 = [] ∧ (ofParameters text).2 = []) ∧
      (∀ e, schema.check fields = .error e →
        ofParameters legacy = (.error (.parameters e), [])) ∧
      (schema.check fields = .ok () → (ofParameters legacy).2 = [tokenNotice]) ∧
      tokenNotice.kind = .deprecation := by
  intro legacy mapping text
  have hlegacy : ofParameters legacy = planWith fields token [tokenNotice] :=
    ofParameters_insert_token token htoken hcredentials
  have hmapping : ofParameters mapping = planWith fields token [] :=
    ofParameters_insert_credentials htoken hcredentials rfl
  have htext : ofParameters text = planWith fields token [] :=
    ofParameters_insert_credentials htoken hcredentials rfl
  have hchecks : schema.check legacy = schema.check fields ∧
      schema.check mapping = schema.check fields ∧ schema.check text = schema.check fields :=
    ⟨check_insert (by decide) htoken rfl, check_insert (by decide) hcredentials rfl,
      check_insert (by decide) hcredentials rfl⟩
  rw [hlegacy, hmapping, htext, planWith, planWith]
  cases hfields : schema.check fields with
  | error e =>
    refine ⟨⟨rfl, rfl⟩, hfields ▸ hchecks, ⟨rfl, rfl⟩, fun found hfound => ?_, nofun, rfl⟩
    cases hfound
    rfl
  | ok _ => exact ⟨⟨rfl, rfl⟩, hfields ▸ hchecks, ⟨rfl, rfl⟩, nofun, fun _ => rfl, rfl⟩

section

attribute [local instance] DomainNames.ascii

/-- The notice is raised although the token cannot be written into this address. -/
theorem ofParameters_token_of_remote :
    let fields : Fields := [("repository", .string "git@github.com:org/repo.git")]
    let token := Json.string "s3cr3t"
    ofParameters (Fields.insert fields "access_token" token) =
        (.error (.invalidUrl "git@github.com:org/repo.git" .relativeWithoutBase), [tokenNotice]) ∧
      ofParameters (Fields.insert fields "credentials" (.object [("access_token", token)])) =
        (.error (.invalidUrl "git@github.com:org/repo.git" .relativeWithoutBase), []) ∧
      ofParameters (Fields.insert fields "credentials" token) =
        (.error (.invalidUrl "git@github.com:org/repo.git" .relativeWithoutBase), []) := by
  intro fields token
  obtain ⟨⟨hmapping, htext⟩, -, ⟨hnone, hnothing⟩, -, hnotice, -⟩ :=
    ofParameters_token_spellings fields "s3cr3t" (by decide) (by decide)
  have hplan : (ofParameters (Fields.insert fields "access_token" token)).1 =
      .error (.invalidUrl "git@github.com:org/repo.git" .relativeWithoutBase) := by
    decide +kernel
  exact ⟨Prod.ext hplan (hnotice rfl), Prod.ext (hmapping.symm.trans hplan) hnone,
    Prod.ext (htext.symm.trans hplan) hnothing⟩

end

end ClonePlan

end Runbook
