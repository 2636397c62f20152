import Runbook.Proofs.Outcome
import Runbook.Step

/-! # Which entries are steps

An entry is read in six checks, one after another. Here the entries that describe a step are told by
what they hold, and each check by what it objects to, on its own and whatever the other checks say.

* **`Step.Gives`**, **`Step.GivesId`**, **`Step.GivesRequires`** — the parameters, the identifier and
  the packages that a value stands for.
* **`Step.WrittenAs`** — a step and the entry that it is written as.
* **`Step.Objection`** — what can be wrong with an entry; `FormatError.rank` is the order of the checks.
* **`Step.ofEntry_exactly`** — an entry is read as the step that is written there, and otherwise the
  first of all objections is reported. -/

namespace Runbook

/-- **The place of an error in the order of the checks.** -/
def FormatError.rank : FormatError → Nat
  | .notAMapping _ => 0
  | .additionalKeys _ => 1
  | .empty => 2
  | .parametersNotAMapping _ _ => 3
  | .invalidId _ => 4
  | .invalidRequires _ => 5

namespace Step

variable {entry value : Json} {name : String} {fields : Fields} {step : Step} {e : FormatError}

/-! ## What values stand for -/

/-- **The parameters that a value stands for**: those of a mapping, and none for null. -/
inductive Gives : Json → Fields → Prop where
  /-- Nothing is given. -/
  | nothing : Gives .null []
  /-- Parameters are given. -/
  | mapping (fields : Fields) : Gives (.object fields) fields

/-- **The identifier that a value stands for**: a text that is not blank, or none. -/
inductive GivesId : Option Json → Option String → Prop where
  /-- There is no value. -/
  | absent : GivesId none none
  /-- The value is null. -/
  | null : GivesId (some .null) none
  /-- The value is a text with something in it. -/
  | text {id : String} (h : ¬ Text.isBlankText id = true) : GivesId (some (.string id)) (some id)

/-- **The packages that a value stands for**: one text, a list of texts, or none. -/
inductive GivesRequires : Option Json → List String → Prop where
  /-- There is no value. -/
  | absent : GivesRequires none []
  /-- The value is null. -/
  | null : GivesRequires (some .null) []
  /-- The value is a text. -/
  | single (package : String) : GivesRequires (some (.string package)) [package]
  /-- The value is a list that holds texts only. -/
  | several (packages : List String) : GivesRequires (some (.array (packages.map .string))) packages

/-- The parameters that are about the step itself. -/
def reserved : List String := ["id", "requires"]

/-- **Parameters without the reserved ones**; all others stay as they are and where they are. -/
def unreserved (fields : Fields) : Fields := fields.filter fun field => field.1 ∉ reserved

/-- **A step and the entry that it is written as.** The entry has one key, the name, which is not blank;
under it are the parameters, the reserved ones among them. -/
inductive WrittenAs : Step → Json → Prop where
  /-- The parts of the step are those of the entry. -/
  | mk {name : String} {value : Json} {fields : Fields} {id : Option String} {requires : List String}
      (hname : ¬ Text.isBlankText name = true) (hgives : Gives value fields)
      (hid : GivesId (Fields.get? fields "id") id)
      (hrequires : GivesRequires (Fields.get? fields "requires") requires) :
      WrittenAs ⟨name, id, requires, unreserved fields⟩ (.object [(name, value)])

/-! ## Objections -/

/-- **What can be wrong with an entry.** Each objection stands for itself: it does not say that there
are no others. From the third on they look at the first member alone. -/
inductive Objection : Json → FormatError → Prop where
  /-- The entry is no mapping. -/
  | notAMapping {entry : Json} (h : ∀ members, entry ≠ .object members) :
      Objection entry (.notAMapping entry.kind)
  /-- The entry has several keys. -/
  | additionalKeys {members : Fields} (h : 1 < members.length) :
      Objection (.object members) (.additionalKeys (Fields.keys members))
  /-- The entry has no key to begin with, or a blank one. -/
  | empty {members : Fields} (h : ∀ member ∈ members.head?, Text.isBlankText member.1 = true) :
      Objection (.object members) .empty
  /-- The value stands for no parameters. -/
  | parametersNotAMapping {name : String} {value : Json} {more : Fields}
      (h : ∀ fields, ¬ Gives value fields) :
      Objection (.object ((name, value) :: more)) (.parametersNotAMapping name value.kind)
  /-- The parameters hold what is no identifier. -/
  | invalidId {name : String} {value : Json} {more fields : Fields} (hgives : Gives value fields)
      (h : ∀ id, ¬ GivesId (Fields.get? fields "id") id) :
      Objection (.object ((name, value) :: more)) (.invalidId name)
  /-- The parameters hold what is no list of packages. -/
  | invalidRequires {name : String} {value : Json} {more fields : Fields} (hgives : Gives value fields)
      (h : ∀ requires, ¬ GivesRequires (Fields.get? fields "requires") requires) :
      Objection (.object ((name, value) :: more)) (.invalidRequires name)

/-- An entry has one objection of each rank at most. -/
theorem Objection.eq_of_rank_eq {other : FormatError} (h : Objection entry e)
    (hother : Objection entry other) (hrank : e.rank = other.rank) : e = other := by
  cases h <;> cases hother <;> simp [FormatError.rank] at hrank ⊢

/-- The objections to an entry with a single key: there is none for the number of its keys. -/
theorem Objection.cases_single (h : Objection (.object [(name, value)]) e) :
    (e = .empty ∧ Text.isBlankText name = true) ∨
      (e = .parametersNotAMapping name value.kind ∧ ∀ fields, ¬ Gives value fields) ∨
      (e = .invalidId name ∧
        ∃ fields, Gives value fields ∧ ∀ id, ¬ GivesId (Fields.get? fields "id") id) ∨
      e = .invalidRequires name ∧
        ∃ fields, Gives value fields ∧
          ∀ requires, ¬ GivesRequires (Fields.get? fields "requires") requires := by
  cases h with
  | notAMapping h => exact absurd rfl (h _)
  | additionalKeys h => exact absurd h (Nat.lt_irrefl 1)
  | empty h => exact .inl ⟨rfl, h _ rfl⟩
  | parametersNotAMapping h => exact .inr (.inl ⟨rfl, h⟩)
  | invalidId hgives h => exact .inr (.inr (.inl ⟨rfl, _, hgives, h⟩))
  | invalidRequires hgives h => exact .inr (.inr (.inr ⟨rfl, _, hgives, h⟩))

/-! ## One check after another -/

/-- A value stands for no more than one list of parameters. -/
theorem Gives.unique {others : Fields} (h : Gives value fields) (hothers : Gives value others) :
    fields = others := by
  cases h <;> cases hothers <;> rfl

/-- The check of the identifier passes with what the value stands for. -/
theorem idOf_eq_ok_iff {value : Option Json} {id : Option String} :
    idOf name value = .ok id ↔ GivesId value id := by
  constructor
  · intro h
    unfold idOf at h
    split at h
    · cases h; exact .absent
    · cases h; exact .null
    · split at h <;> cases h
      rename_i hblank
      exact .text hblank
    · cases h
  · rintro (_ | _ | hblank)
    · rfl
    · rfl
    · rw [idOf, if_neg hblank]

/-- Otherwise it fails, and there is only one way to do so. -/
theorem idOf_eq_error {value : Option Json} (h : idOf name value = .error e) :
    (∀ id, ¬ GivesId value id) ∧ e = .invalidId name := by
  refine ⟨fun id hid => ?_, ?_⟩
  · rw [idOf_eq_ok_iff.mpr hid] at h
    cases h
  · unfold idOf at h
    split at h
    · cases h
    · cases h
    · split at h <;> cases h
      rfl
    · cases h
      rfl

/-- A list holds texts only if it is made of texts. -/
theorem textsOf?_eq_some_iff {items : List Json} {texts : List String} :
    textsOf? items = some texts ↔ items = texts.map .string := by
  induction items generalizing texts with
  | nil => cases texts <;> simp [textsOf?]
  | cons item rest ih =>
    cases item with
    | string text =>
      rw [textsOf?, Option.map_eq_some_iff]
      constructor
      · rintro ⟨more, hmore, rfl⟩
        rw [ih.mp hmore, List.map_cons]
      · intro h
        cases texts with
        | nil => cases h
        | cons first more =>
          obtain ⟨htext, hrest⟩ := List.cons.inj h
          cases htext
          exact ⟨more, ih.mpr hrest, rfl⟩
    | null | bool _ | number _ | array _ | object _ => cases texts <;> simp [textsOf?]

/-- The check of the packages passes with what the value stands for. -/
theorem requiresOf_eq_ok_iff {value : Option Json} {requires : List String} :
    requiresOf name value = .ok requires ↔ GivesRequires value requires := by
  constructor
  · intro h
    unfold requiresOf at h
    split at h
    · cases h; exact .absent
    · cases h; exact .null
    · cases h; exact .single _
    · split at h <;> cases h
      rename_i htexts
      rw [textsOf?_eq_some_iff.mp htexts]
      exact .several _
    · cases h
  · rintro (_ | _ | package | packages)
    · rfl
    · rfl
    · rfl
    · rw [requiresOf, textsOf?_eq_some_iff.mpr rfl]

/-- Otherwise it fails, and there is only one way to do so. -/
theorem requiresOf_eq_error {value : Option Json} (h : requiresOf name value = .error e) :
    (∀ requires, ¬ GivesRequires value requires) ∧ e = .invalidRequires name := by
  refine ⟨fun requires hrequires => ?_, ?_⟩
  · rw [requiresOf_eq_ok_iff.mpr hrequires] at h
    cases h
  · unfold requiresOf at h
    split at h
    · cases h
    · cases h
    · cases h
    · split at h <;> cases h
      rfl
    · cases h
      rfl

/-- The reserved parameters may be taken away one after the other. -/
theorem erase_erase_eq_unreserved (fields : Fields) :
    (fields.erase "id").erase "requires" = unreserved fields := by
  rw [Fields.erase, Fields.erase, List.filter_filter, unreserved]
  refine List.filter_congr fun field _ => ?_
  rw [Bool.eq_iff_iff]
  simp [reserved, and_comm]

/-- No other parameter changes its value. -/
theorem get?_unreserved (fields : Fields) (key : String) :
    Fields.get? (unreserved fields) key =
      if key ∈ reserved then none else Fields.get? fields key := by
  rw [← erase_erase_eq_unreserved, Fields.get?_erase, Fields.get?_erase]
  by_cases hrequires : key = "requires"
  · simp [hrequires, reserved]
  · by_cases hid : key = "id" <;> simp [hrequires, hid, reserved]

/-- Parameters that pass both checks make a step. -/
theorem ofParameters_eq_ok_iff :
    ofParameters name fields = .ok step ↔
      ∃ id requires, GivesId (Fields.get? fields "id") id ∧
        GivesRequires (Fields.get? fields "requires") requires ∧
        step = ⟨name, id, requires, unreserved fields⟩ := by
  have hid : ∀ value id, GivesId value id ↔ idOf name value = .ok id :=
    fun value id => idOf_eq_ok_iff.symm
  have hrequires : ∀ value requires, GivesRequires value requires ↔
      requiresOf name value = .ok requires := fun value requires => requiresOf_eq_ok_iff.symm
  simp only [hid, hrequires, ofParameters, erase_erase_eq_unreserved]
  cases idOf name (Fields.get? fields "id") with
  | error e => simp
  | ok id =>
    cases requiresOf name (Fields.get? fields "requires") with
    | error e => simp
    | ok requires => simp [eq_comm]

/-- Parameters fail at the first check that they do not pass. -/
theorem ofParameters_eq_error (h : ofParameters name fields = .error e) :
    ((∀ id, ¬ GivesId (Fields.get? fields "id") id) ∧ e = .invalidId name) ∨
      (∃ id, GivesId (Fields.get? fields "id") id) ∧
        (∀ requires, ¬ GivesRequires (Fields.get? fields "requires") requires) ∧
        e = .invalidRequires name := by
  rw [ofParameters] at h
  cases hid : idOf name (Fields.get? fields "id") with
  | error cause =>
    rw [hid] at h
    cases h
    exact .inl (idOf_eq_error hid)
  | ok id =>
    rw [hid] at h
    cases hrequires : requiresOf name (Fields.get? fields "requires") with
    | error cause =>
      rw [hrequires] at h
      cases h
      exact .inr ⟨⟨id, idOf_eq_ok_iff.mp hid⟩, requiresOf_eq_error hrequires⟩
    | ok requires =>
      rw [hrequires] at h
      cases h

/-! ## Entries -/

/-- An entry with a name and parameters comes to what these parameters come to. -/
theorem ofEntry_of_gives (hname : ¬ Text.isBlankText name = true) (hgives : Gives value fields) :
    ofEntry (.object [(name, value)]) = ofParameters name fields := by
  cases hgives with
  | nothing =>
    have hentry : ofEntry (.object [(name, .null)]) =
        if Text.isBlankText name then .error .empty else ofParameters name [] := rfl
    rw [hentry, if_neg hname]
  | mapping fields =>
    have hentry : ofEntry (.object [(name, .object fields)]) =
        if Text.isBlankText name then .error .empty else ofParameters name fields := rfl
    rw [hentry, if_neg hname]

/-- **An entry is read as the step that is written there**, and no other entry is accepted. -/
theorem ofEntry_eq_ok_iff : ofEntry entry = .ok step ↔ WrittenAs step entry := by
  constructor
  · intro h
    unfold ofEntry at h
    split at h
    · cases h
    · rename_i name value
      split at h
      · cases h
      · rename_i hname
        split at h
        · obtain ⟨id, requires, hid, hrequires, rfl⟩ := ofParameters_eq_ok_iff.mp h
          exact .mk hname (.mapping _) hid hrequires
        · obtain ⟨id, requires, hid, hrequires, rfl⟩ := ofParameters_eq_ok_iff.mp h
          exact .mk hname .nothing hid hrequires
        · cases h
    · cases h
    · cases h
  · rintro ⟨hname, hgives, hid, hrequires⟩
    rw [ofEntry_of_gives hname hgives]
    exact ofParameters_eq_ok_iff.mpr ⟨_, _, hid, hrequires, rfl⟩

/-- There is no objection to an entry that a step is written as. -/
theorem no_objection_of_writtenAs (h : WrittenAs step entry) : ¬ Objection entry e := by
  intro hobjection
  obtain ⟨hname, hgives, hid, hrequires⟩ := h
  rcases hobjection.cases_single with
    ⟨-, hblank⟩ | ⟨-, hnone⟩ | ⟨-, given, hgiven, hnone⟩ | ⟨-, given, hgiven, hnone⟩
  · exact hname hblank
  · exact hnone _ hgives
  · exact hnone _ (hgiven.unique hgives ▸ hid)
  · exact hnone _ (hgiven.unique hgives ▸ hrequires)

/-- Parameters that fail a check bring the first objection to their entry. -/
theorem first_objection_of_ofParameters (hname : ¬ Text.isBlankText name = true)
    (hgives : Gives value fields) (h : ofParameters name fields = .error e) :
    Objection (.object [(name, value)]) e ∧
      ∀ other, Objection (.object [(name, value)]) other → e.rank ≤ other.rank := by
  rcases ofParameters_eq_error h with ⟨hid, rfl⟩ | ⟨⟨id, hid⟩, hrequires, rfl⟩
  · refine ⟨.invalidId hgives hid, fun other hother => ?_⟩
    rcases hother.cases_single with ⟨-, hblank⟩ | ⟨-, hnone⟩ | ⟨rfl, -⟩ | ⟨rfl, -⟩
    · exact absurd hblank hname
    · exact absurd hgives (hnone fields)
    · exact Nat.le_refl 4
    · exact Nat.le_succ 4
  · refine ⟨.invalidRequires hgives hrequires, fun other hother => ?_⟩
    rcases hother.cases_single with ⟨-, hblank⟩ | ⟨-, hnone⟩ | ⟨-, given, hgiven, hnone⟩ | ⟨rfl, -⟩
    · exact absurd hblank hname
    · exact absurd hgives (hnone fields)
    · have hsame : given = fields := hgiven.unique hgives
      exact absurd hid (hsame ▸ hnone id)
    · exact Nat.le_refl 5

/-- **An entry that is not accepted is rejected for the first of all objections to it.** -/
theorem first_objection_of_ofEntry (h : ofEntry entry = .error e) :
    Objection entry e ∧ ∀ other, Objection entry other → e.rank ≤ other.rank := by
  unfold ofEntry at h
  split at h
  · -- no key at all, to which nothing but its emptiness is objected
    cases h
    refine ⟨.empty nofun, fun other hother => ?_⟩
    cases hother with
    | notAMapping hother => exact absurd rfl (hother _)
    | additionalKeys hother => exact absurd hother (Nat.not_lt_zero 1)
    | empty _ => exact Nat.le_refl 2
  · rename_i name value
    split at h
    · cases h
      rename_i hblank
      have hempty : Objection (.object [(name, value)]) .empty := by
        refine .empty fun member hmember => ?_
        cases hmember
        exact hblank
      refine ⟨hempty, fun other hother => ?_⟩
      rcases hother.cases_single with ⟨rfl, -⟩ | ⟨rfl, -⟩ | ⟨rfl, -⟩ | ⟨rfl, -⟩ <;>
        simp [FormatError.rank]
    · rename_i hname
      split at h
      · exact first_objection_of_ofParameters hname (.mapping _) h
      · exact first_objection_of_ofParameters hname .nothing h
      · rename_i hobject hnull
        cases h
        have hnone : ∀ fields, ¬ Gives value fields := by
          rintro fields (_ | _)
          · exact hnull rfl
          · exact hobject _ rfl
        refine ⟨.parametersNotAMapping hnone, fun other hother => ?_⟩
        rcases hother.cases_single with ⟨-, hblank⟩ | ⟨rfl, -⟩ | ⟨rfl, -⟩ | ⟨rfl, -⟩
        · exact absurd hblank hname
        all_goals simp [FormatError.rank]
  · -- several keys, which only an entry without any keys would not get as far as
    rename_i members hnil hsingle
    cases h
    have hseveral : 1 < members.length := by
      match members, hnil, hsingle with
      | [], hnil, _ => exact absurd rfl hnil
      | [(name, value)], _, hsingle => exact absurd rfl (hsingle name value)
      | _ :: _ :: rest, _, _ => simp
    refine ⟨.additionalKeys hseveral, fun other hother => ?_⟩
    cases hother with
    | notAMapping hother => exact absurd rfl (hother _)
    | _ => simp [FormatError.rank]
  · rename_i _ _ hobject
    cases h
    exact ⟨.notAMapping hobject, fun other _ => Nat.zero_le other.rank⟩

/-- **Entries are accepted exactly and split without loss.** An entry is read as a step exactly if it is
written as that step: it has one key, the name, which is not blank; what stands under it is a mapping
or null; the identifier and the packages are those that its reserved parameters stand for, and the
parameters of the step are all others, as they are. An entry is rejected with an error exactly if that
is an objection to it and no other objection comes earlier in the order of the checks; so it is accepted
exactly if there is no objection to it. -/
theorem ofEntry_exactly (entry : Json) :
    (∀ step, ofEntry entry = .ok step ↔ WrittenAs step entry) ∧
      (∀ e, ofEntry entry = .error e ↔
        Objection entry e ∧ ∀ other, Objection entry other → e.rank ≤ other.rank) ∧
      ((∃ step, ofEntry entry = .ok step) ↔ ∀ e, ¬ Objection entry e) ∧
      ∀ fields key, Fields.get? (unreserved fields) key =
        if key ∈ reserved then none else Fields.get? fields key := by
  refine ⟨fun step => ofEntry_eq_ok_iff, fun e => ⟨first_objection_of_ofEntry, ?_⟩, ⟨?_, ?_⟩,
    get?_unreserved⟩
  · rintro ⟨hobjection, hfirst⟩
    cases hentry : ofEntry entry with
    | ok step => exact absurd hobjection (no_objection_of_writtenAs (ofEntry_eq_ok_iff.mp hentry))
    | error reported =>
      obtain ⟨hreported, hearliest⟩ := first_objection_of_ofEntry hentry
      have hrank : reported.rank = e.rank :=
        Nat.le_antisymm (hearliest e hobjection) (hfirst reported hreported)
      rw [hreported.eq_of_rank_eq hobjection hrank]
  · rintro ⟨step, hstep⟩ e
    exact no_objection_of_writtenAs (ofEntry_eq_ok_iff.mp hstep)
  · intro hclear
    cases hentry : ofEntry entry with
    | ok step => exact ⟨step, rfl⟩
    | error e => exact absurd (first_objection_of_ofEntry hentry).1 (hclear e)

/-- Of the objections to this entry, several keys, a blank one to begin with and a value that is no
mapping, the first in order is reported. -/
example : ofEntry (.object [("", .bool true), ("a.b", .object [("id", .number (.integer 7))])]) =
    .error (.additionalKeys ["", "a.b"]) := rfl

end Step

end Runbook
