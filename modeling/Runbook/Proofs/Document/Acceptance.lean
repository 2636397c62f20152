import Runbook.Proofs.Document
import Runbook.Proofs.Outcome

/-! # Which trees are documents

A document tree is read as a pipeline document by what it holds. Its elements and sections count as the
data that they stand for, and of a section that is written twice the last counts, in the place of the
first; nothing else is lost, and nothing changes its place.

* **`PipelineDocument.GivesText`**, **`PipelineDocument.Lists`** — the text that the members of a mapping
  give under a key, and the entries that a section lists.
* **`PipelineDocument.DescribedBy`** — a document and a tree in which it is written.
* **`PipelineDocument.Refused`** — a tree that is no document, and why.
* **`PipelineDocument.ofTree_exactly`** — a tree is read as the document that is written in it, and
  otherwise refused for what is wrong with it. -/

namespace Runbook

/-! ## Items and keys -/

/-- The data of items, read one by one. -/
theorem Tree.jsonItems?_eq_mapM (items : List Tree) : jsonItems? items = items.mapM json? := by
  induction items with
  | nil => rfl
  | cons item rest ih =>
    rw [jsonItems?, ih, List.mapM_cons]
    cases item.json? with
    | none => rfl
    | some value => cases rest.mapM json? <;> rfl

/-- The members of a mapping are found exactly if all its keys are strings. -/
theorem Tree.members?_eq_some_iff {entries : List (Tree × Tree)} {members : List (String × Tree)} :
    members? entries = some members ↔ .mapping entries = record members := by
  constructor
  · intro h
    rw [record, Tree.mapping.injEq]
    induction mapM_eq_some_iff_forall₂.mp h with
    | nil => rfl
    | cons hfirst hrest ih =>
      rw [List.map_cons, ih (mapM_eq_some_iff_forall₂.mpr hrest)]
      split at hfirst
      · cases hfirst
        rfl
      · cases hfirst
  · intro h
    rw [record, Tree.mapping.injEq] at h
    rw [h, members?_record]

/-- They are not found exactly if there is another key. -/
theorem Tree.members?_eq_none_iff {entries : List (Tree × Tree)} :
    members? entries = none ↔ ∃ entry ∈ entries, ∀ key, entry.1 ≠ .string key := by
  rw [members?, mapM_eq_none_iff_exists]
  refine exists_congr fun entry => and_congr_right fun _ => ?_
  obtain ⟨key, value⟩ := entry
  cases key <;> simp

namespace PipelineDocument

variable {tree : Tree} {members : List (String × Tree)} {values : List (String × Json)}
  {found : List (String × List Json)} {document : PipelineDocument} {key : String} {e : DocumentError}

/-! ## What members stand for -/

/-- **The text that members give under a key**: that of the only member there, if it is not null. -/
inductive GivesText (members : List (String × Tree)) (key : String) : Option String → Prop where
  /-- There is no member. -/
  | absent (h : under key members = []) : GivesText members key none
  /-- The member is null. -/
  | null (h : under key members = [.null]) : GivesText members key none
  /-- The member is a text. -/
  | text {text : String} (h : under key members = [.string text]) : GivesText members key (some text)

/-- **The entries that the data of a section lists**: those of a sequence, and none for null. -/
inductive Lists : Json → List Json → Prop where
  /-- Nothing is listed. -/
  | nothing : Lists .null []
  /-- Entries are listed. -/
  | sequence (entries : List Json) : Lists (.array entries) entries

/-- The keys of the name and the description. -/
def headings : List String := ["name", "description"]

/-- **The members that are sections**: all but the name and the description. -/
def sectionsIn (members : List (String × Tree)) : List (String × Tree) :=
  members.filter fun member => member.1 ∉ headings

/-- **Members and the data that they stand for**, one by one. -/
def StandFor (members : List (String × Tree)) (values : List (String × Json)) : Prop :=
  List.Forall₂ (fun member value => member.1 = value.1 ∧ member.2.json? = some value.2) members values

/-- **A document and a tree in which it is written.** -/
inductive DescribedBy : PipelineDocument → Tree → Prop where
  /-- The elements of a sequence are the entries of the only section. -/
  | sequence {items : List Tree} {values : List Json}
      (h : List.Forall₂ (fun item value => item.json? = some value) items values) :
      DescribedBy ⟨none, none, Table.empty.insert soleSection values⟩ (.sequence items)
  /-- The members of a mapping are the name, the description and the sections. -/
  | mapping {members : List (String × Tree)} {name description : Option String}
      {sections : Table (List Json)} {values : List (String × Json)}
      (hname : GivesText members "name" name)
      (hdescription : GivesText members "description" description)
      (hvalues : StandFor (sectionsIn members) values)
      (hsections : List.Forall₂ (fun value entry => value.1 = entry.1 ∧ Lists value.2 entry.2)
        (Table.settled values) sections.entries) :
      DescribedBy ⟨name, description, sections⟩ (.record members)

/-- **A tree that is no document, and why.** -/
inductive Refused : Tree → DocumentError → Prop where
  /-- It is neither a sequence nor a mapping. -/
  | otherKind {tree : Tree} (hsequence : ∀ items, tree ≠ .sequence items)
      (hmapping : ∀ entries, tree ≠ .mapping entries) : Refused tree .unrecognized
  /-- An element of it stands for no data. -/
  | element {items : List Tree} {item : Tree} (hmem : item ∈ items) (hitem : item.json? = none) :
      Refused (.sequence items) .unrecognized
  /-- A key is no string. -/
  | key {entries : List (Tree × Tree)} {entry : Tree × Tree} (hmem : entry ∈ entries)
      (hkey : ∀ key, entry.1 ≠ .string key) : Refused (.mapping entries) .unrecognized
  /-- The name or the description is given twice or is of another kind. -/
  | heading {members : List (String × Tree)} {key : String} (hkey : key ∈ headings)
      (h : ∀ text, ¬ GivesText members key text) : Refused (.record members) .unrecognized
  /-- A section stands for no data. -/
  | noData {members : List (String × Tree)} {member : String × Tree} (hmem : member ∈ sectionsIn members)
      (h : member.2.json? = none) : Refused (.record members) .unrecognized
  /-- Everything else is as it should be, and a section, the first such one, lists nothing. -/
  | notASequence {members : List (String × Tree)} {name description : Option String}
      {values before after : List (String × Json)} {key : String} {value : Json}
      (hname : GivesText members "name" name)
      (hdescription : GivesText members "description" description)
      (hvalues : StandFor (sectionsIn members) values)
      (hsettled : Table.settled values = before ++ (key, value) :: after)
      (hbefore : ∀ earlier ∈ before, ∃ entries, Lists earlier.2 entries)
      (hvalue : ∀ entries, ¬ Lists value entries) : Refused (.record members) (.notASequence key)

/-! ## One part after another -/

/-- A heading is read as the text that the members give. -/
theorem text?_eq_ok_iff {text : Option String} :
    text? (under key members) = .ok text ↔ GivesText members key text := by
  constructor
  · intro h
    unfold text? at h
    split at h
    · cases h
      exact .absent ‹_›
    · cases h
      exact .null ‹_›
    · cases h
      exact .text ‹_›
    · cases h
  · rintro (h | h | h) <;> rw [h] <;> rfl

/-- Otherwise it is refused, and there is only one way to do so. -/
theorem text?_eq_error_iff :
    text? (under key members) = .error e ↔
      (∀ text, ¬ GivesText members key text) ∧ e = .unrecognized := by
  simp only [← text?_eq_ok_iff]
  cases h : text? (under key members) with
  | ok text => simp
  | error found =>
    unfold text? at h
    split at h <;> cases h
    simp [eq_comm]

/-- Where the section of a member is read, and as what. -/
theorem map_json?_eq_some_iff {member : String × Tree} {value : String × Json} :
    (member.2.json?.map fun found => (member.1, found)) = some value ↔
      member.1 = value.1 ∧ member.2.json? = some value.2 := by
  obtain ⟨key, tree⟩ := member
  obtain ⟨other, found⟩ := value
  cases tree.json? <;> simp

theorem sectionValues?_eq (members : List (String × Tree)) :
    sectionValues? members =
      (sectionsIn members).mapM fun member => member.2.json?.map fun found => (member.1, found) := by
  have hsections : (members.filter fun member => member.1 != "name" && member.1 != "description") =
      sectionsIn members := by
    refine List.filter_congr fun member _ => ?_
    rw [Bool.eq_iff_iff]
    simp [headings]
  rw [sectionValues?, hsections]

/-- The sections are read as the data that they stand for. -/
theorem sectionValues?_eq_some_iff :
    sectionValues? members = some values ↔ StandFor (sectionsIn members) values := by
  rw [sectionValues?_eq, mapM_eq_some_iff_forall₂, StandFor]
  simp only [map_json?_eq_some_iff]

/-- They are not read exactly if one of them stands for no data. -/
theorem sectionValues?_eq_none_iff :
    sectionValues? members = none ↔ ∃ member ∈ sectionsIn members, member.2.json? = none := by
  rw [sectionValues?_eq, mapM_eq_none_iff_exists]
  simp only [Option.map_eq_none_iff]

theorem entries_cons_of_lists {value : Json} {items : List Json} (h : Lists value items)
    (rest : List (String × Json)) :
    entries ((key, value) :: rest) = (entries rest).map fun found => (key, items) :: found := by
  cases h <;> rfl

theorem entries_cons_of_not_lists {value : Json} (h : ∀ items, ¬ Lists value items)
    (rest : List (String × Json)) :
    entries ((key, value) :: rest) = .error (.notASequence key) := by
  cases value with
  | null => exact absurd .nothing (h [])
  | array items => exact absurd (.sequence items) (h items)
  | bool _ | number _ | string _ | object _ => rfl

/-- A section lists one list of entries at most. -/
theorem Lists.unique {value : Json} {items others : List Json} (h : Lists value items)
    (hothers : Lists value others) : items = others := by
  cases h <;> cases hothers <;> rfl

/-- The entries of sections are found if every section lists some. -/
theorem entries_eq_ok_iff :
    entries values = .ok found ↔
      List.Forall₂ (fun value entry => value.1 = entry.1 ∧ Lists value.2 entry.2) values found := by
  induction values generalizing found with
  | nil => cases found <;> simp [entries]
  | cons first rest ih =>
    obtain ⟨key, value⟩ := first
    rw [List.forall₂_cons_left_iff]
    by_cases hlists : ∃ items, Lists value items
    · obtain ⟨items, hitems⟩ := hlists
      rw [entries_cons_of_lists hitems, map_eq_ok_iff]
      simp only [ih]
      constructor
      · rintro ⟨others, hothers, rfl⟩
        exact ⟨(key, items), others, ⟨rfl, hitems⟩, hothers, rfl⟩
      · rintro ⟨⟨other, listed⟩, others, ⟨rfl, hlisted⟩, hothers, rfl⟩
        exact ⟨others, hothers, by rw [hitems.unique hlisted]⟩
    · rw [entries_cons_of_not_lists (not_exists.mp hlists)]
      constructor
      · intro h
        cases h
      · rintro ⟨entry, others, ⟨-, hentry⟩, -, -⟩
        exact absurd ⟨entry.2, hentry⟩ hlists

/-- Otherwise the first section that lists none is reported. -/
theorem entries_eq_error_iff :
    entries values = .error e ↔
      ∃ before key value after, values = before ++ (key, value) :: after ∧
        (∀ earlier ∈ before, ∃ entries, Lists earlier.2 entries) ∧
        (∀ entries, ¬ Lists value entries) ∧ e = .notASequence key := by
  induction values with
  | nil =>
    constructor
    · intro h
      cases h
    · rintro ⟨before, key, value, after, hvalues, -⟩
      have hne := List.append_ne_nil_of_right_ne_nil before (List.cons_ne_nil (key, value) after)
      exact absurd hvalues.symm hne
  | cons first rest ih =>
    obtain ⟨first, listed⟩ := first
    by_cases hlists : ∃ items, Lists listed items
    · obtain ⟨items, hitems⟩ := hlists
      have herror : (entries rest).map (fun found => (first, items) :: found) = .error e ↔
          entries rest = .error e := by
        cases entries rest <;> simp [Except.map]
      rw [entries_cons_of_lists hitems, herror, ih]
      constructor
      · rintro ⟨before, key, value, after, rfl, hbefore, hvalue, rfl⟩
        exact ⟨(first, listed) :: before, key, value, after, rfl,
          List.forall_mem_cons.mpr ⟨⟨items, hitems⟩, hbefore⟩, hvalue, rfl⟩
      · rintro ⟨before, key, value, after, hvalues, hbefore, hvalue, rfl⟩
        cases before with
        | nil =>
          cases hvalues
          exact absurd hitems (hvalue items)
        | cons earlier before =>
          cases hvalues
          exact ⟨before, key, value, after, rfl, (List.forall_mem_cons.mp hbefore).2, hvalue, rfl⟩
    · have hnone := not_exists.mp hlists
      rw [entries_cons_of_not_lists hnone]
      constructor
      · intro h
        cases h
        exact ⟨[], first, listed, rest, rfl, fun _ h => absurd h List.not_mem_nil, hnone, rfl⟩
      · rintro ⟨before, key, value, after, hvalues, hbefore, hvalue, rfl⟩
        cases before with
        | nil =>
          cases hvalues
          rfl
        | cons earlier before =>
          cases hvalues
          exact absurd (hbefore _ List.mem_cons_self) hlists

/-- Sections keep their names. -/
theorem map_fst_of_entries (h : entries values = .ok found) :
    found.map Prod.fst = values.map Prod.fst := by
  induction entries_eq_ok_iff.mp h with
  | nil => rfl
  | cons hfirst hrest ih =>
    rw [List.map_cons, List.map_cons, ih (entries_eq_ok_iff.mpr hrest), hfirst.1]

/-- The table of the sections that are found has just these entries. -/
theorem entries_ofList_found (h : entries (Table.settled values) = .ok found) :
    (Table.ofList found).entries = found := by
  rw [Table.entries_ofList, Table.settled_of_nodup]
  rw [map_fst_of_entries h, ← Table.entries_ofList]
  exact (Table.ofList values).nodup

/-! ## Mappings and sequences -/

/-- **The members of a mapping are read as a document** exactly if they give a name and a description
and every section lists entries. -/
theorem ofMembers_eq_ok_iff :
    ofMembers members = .ok document ↔
      ∃ values, GivesText members "name" document.name ∧
        GivesText members "description" document.description ∧
        StandFor (sectionsIn members) values ∧
        List.Forall₂ (fun value entry => value.1 = entry.1 ∧ Lists value.2 entry.2)
          (Table.settled values) document.sections.entries := by
  simp only [← text?_eq_ok_iff, ← sectionValues?_eq_some_iff, ← entries_eq_ok_iff]
  obtain ⟨title, about, sections⟩ := document
  rw [ofMembers]
  cases text? (under "name" members) with
  | error e => simp [bind, Except.bind]
  | ok name =>
    cases text? (under "description" members) with
    | error e => simp [bind, Except.bind]
    | ok description =>
      cases sectionValues? members with
      | none => simp [bind, Except.bind]
      | some values =>
        simp only [bind, Except.bind, Table.entries_ofList]
        cases hfound : entries (Table.settled values) with
        | error e => simp [hfound]
        | ok found => simp [hfound, Table.ext_iff, entries_ofList_found hfound]

/-- A name or a description of another kind is refused. -/
theorem ofMembers_of_heading (hkey : key ∈ headings) (h : ∀ text, ¬ GivesText members key text) :
    ofMembers members = .error .unrecognized := by
  have herror : text? (under key members) = .error .unrecognized := text?_eq_error_iff.mpr ⟨h, rfl⟩
  simp only [headings, List.mem_cons, List.not_mem_nil, or_false] at hkey
  rw [ofMembers]
  rcases hkey with rfl | rfl
  · rw [herror]
    rfl
  · rw [herror]
    cases hname : text? (under "name" members) with
    | error e =>
      rw [(text?_eq_error_iff.mp hname).2]
      rfl
    | ok name => rfl

/-- A section that stands for no data is refused, whatever the headings are. -/
theorem ofMembers_of_noData (h : sectionValues? members = none) :
    ofMembers members = .error .unrecognized := by
  rw [ofMembers, h]
  cases hname : text? (under "name" members) with
  | error e =>
    rw [(text?_eq_error_iff.mp hname).2]
    rfl
  | ok name =>
    cases hdescription : text? (under "description" members) with
    | error e =>
      rw [(text?_eq_error_iff.mp hdescription).2]
      rfl
    | ok description => rfl

/-- With headings and data as they should be, the sections decide. -/
theorem ofMembers_eq_of_standFor {name description : Option String}
    (hname : GivesText members "name" name) (hdescription : GivesText members "description" description)
    (hvalues : StandFor (sectionsIn members) values) :
    ofMembers members = (entries (Table.settled values)).map fun found =>
      ⟨name, description, .ofList found⟩ := by
  rw [ofMembers, text?_eq_ok_iff.mpr hname, text?_eq_ok_iff.mpr hdescription,
    sectionValues?_eq_some_iff.mpr hvalues, ← Table.entries_ofList]
  dsimp only [bind, Except.bind]
  cases entries (Table.ofList values).entries <;> rfl

/-- **Members that are not read are refused for what is wrong with them.** -/
theorem refused_of_ofMembers (h : ofMembers members = .error e) : Refused (.record members) e := by
  cases hname : text? (under "name" members) with
  | error cause =>
    have hnone := (text?_eq_error_iff.mp hname).1
    rw [ofMembers_of_heading (by decide) hnone] at h
    cases h
    exact .heading (by decide) hnone
  | ok name =>
    cases hdescription : text? (under "description" members) with
    | error cause =>
      have hnone := (text?_eq_error_iff.mp hdescription).1
      rw [ofMembers_of_heading (by decide) hnone] at h
      cases h
      exact .heading (by decide) hnone
    | ok description =>
      cases hvalues : sectionValues? members with
      | none =>
        obtain ⟨member, hmember, hnone⟩ := sectionValues?_eq_none_iff.mp hvalues
        rw [ofMembers_of_noData hvalues] at h
        cases h
        exact .noData hmember hnone
      | some values =>
        have hgives := text?_eq_ok_iff.mp hname
        have habout := text?_eq_ok_iff.mp hdescription
        have hdata := sectionValues?_eq_some_iff.mp hvalues
        rw [ofMembers_eq_of_standFor hgives habout hdata] at h
        have herror : entries (Table.settled values) = .error e := by
          rwa [← errorOf?_eq_some_iff, errorOf?_map, errorOf?_eq_some_iff] at h
        obtain ⟨before, key, value, after, hsettled, hbefore, hvalue, rfl⟩ :=
          entries_eq_error_iff.mp herror
        exact .notASequence hgives habout hdata hsettled hbefore hvalue

/-- **A tree is read as the document that is written in it**, and as no other. -/
theorem ofTree_eq_ok_iff : ofTree tree = .ok document ↔ DescribedBy document tree := by
  constructor
  · intro h
    cases tree with
    | sequence items =>
      rw [ofTree] at h
      split at h
      · rename_i values hvalues
        cases h
        rw [Tree.jsonItems?_eq_mapM, mapM_eq_some_iff_forall₂] at hvalues
        exact .sequence hvalues
      · cases h
    | mapping entries =>
      rw [ofTree] at h
      split at h
      · rename_i members hmembers
        obtain ⟨values, hname, hdescription, hvalues, hsections⟩ := ofMembers_eq_ok_iff.mp h
        rw [Tree.members?_eq_some_iff.mp hmembers]
        exact .mapping hname hdescription hvalues hsections
      · cases h
    | null | bool _ | number _ | notFinite | string _ => cases h
  · rintro (hitems | ⟨hname, hdescription, hvalues, hsections⟩)
    · rw [ofTree, Tree.jsonItems?_eq_mapM, mapM_eq_some_iff_forall₂.mpr hitems]
    · rw [ofTree_record]
      exact ofMembers_eq_ok_iff.mpr ⟨_, hname, hdescription, hvalues, hsections⟩

/-- **Any other tree is refused for what is wrong with it.** -/
theorem ofTree_eq_error_iff : ofTree tree = .error e ↔ Refused tree e := by
  constructor
  · intro h
    cases tree with
    | sequence items =>
      rw [ofTree] at h
      split at h
      · cases h
      · rename_i hnone
        cases h
        rw [Tree.jsonItems?_eq_mapM, mapM_eq_none_iff_exists] at hnone
        obtain ⟨item, hitem, hdata⟩ := hnone
        exact .element hitem hdata
    | mapping entries =>
      rw [ofTree] at h
      split at h
      · rename_i members hmembers
        rw [Tree.members?_eq_some_iff.mp hmembers]
        exact refused_of_ofMembers h
      · rename_i hnone
        cases h
        obtain ⟨entry, hentry, hkey⟩ := Tree.members?_eq_none_iff.mp hnone
        exact .key hentry hkey
    | null | bool _ | number _ | notFinite | string _ =>
      cases h
      exact .otherKind (fun _ h => Tree.noConfusion h) fun _ h => Tree.noConfusion h
  · intro h
    cases h with
    | otherKind hsequence hmapping =>
      cases tree with
      | sequence items => exact absurd rfl (hsequence items)
      | mapping entries => exact absurd rfl (hmapping entries)
      | null | bool _ | number _ | notFinite | string _ => rfl
    | element hmem hitem =>
      rw [ofTree, Tree.jsonItems?_eq_mapM, mapM_eq_none_iff_exists.mpr ⟨_, hmem, hitem⟩]
    | key hmem hkey => rw [ofTree, Tree.members?_eq_none_iff.mpr ⟨_, hmem, hkey⟩]
    | heading hkey h =>
      rw [ofTree_record]
      exact ofMembers_of_heading hkey h
    | noData hmem h =>
      rw [ofTree_record]
      exact ofMembers_of_noData (sectionValues?_eq_none_iff.mpr ⟨_, hmem, h⟩)
    | notASequence hname hdescription hvalues hsettled hbefore hvalue =>
      rw [ofTree_record, ofMembers_eq_of_standFor hname hdescription hvalues,
        entries_eq_error_iff.mpr ⟨_, _, _, _, hsettled, hbefore, hvalue, rfl⟩]
      rfl

/-- Members keep their keys. -/
theorem map_fst_of_standFor (h : StandFor members values) :
    values.map Prod.fst = members.map Prod.fst := by
  induction h with
  | nil => rfl
  | cons hfirst _ ih => rw [List.map_cons, List.map_cons, ih, hfirst.1]

/-- Where no key is repeated, the sections are all the other members. -/
theorem settled_of_standFor (hmembers : (members.map Prod.fst).Nodup)
    (hvalues : StandFor (sectionsIn members) values) : Table.settled values = values := by
  have hsublist : ((sectionsIn members).map Prod.fst).Sublist (members.map Prod.fst) :=
    List.filter_sublist.map Prod.fst
  apply Table.settled_of_nodup
  rw [map_fst_of_standFor hvalues]
  exact hsublist.nodup hmembers

/-- **Documents are decoded exactly.** A tree is read as a document exactly if the document is written
in it: as a sequence of data, which are the entries of the only section, or as a mapping from strings, in
which the name and the description are absent, null or a text, and every other member is a section, a
sequence or null as data, of those with one key the last in the place of the first. Any other tree is
refused for what is wrong with it: it has another kind, some part of it is no data, a heading is no
text, or else a section lists nothing, the first such one in order. Where no key is repeated the
sections are exactly the other members, in their order, each with its entries in order. -/
theorem ofTree_exactly (tree : Tree) :
    (∀ document, ofTree tree = .ok document ↔ DescribedBy document tree) ∧
      (∀ e, ofTree tree = .error e ↔ Refused tree e) ∧
      ∀ members, tree = .record members → (members.map Prod.fst).Nodup →
        ∀ document, ofTree tree = .ok document ↔
          GivesText members "name" document.name ∧
          GivesText members "description" document.description ∧
          List.Forall₂ (fun member entry => member.1 = entry.1 ∧
              ∃ value, member.2.json? = some value ∧ Lists value entry.2)
            (sectionsIn members) document.sections.entries := by
  refine ⟨fun document => ofTree_eq_ok_iff, fun e => ofTree_eq_error_iff, ?_⟩
  rintro members rfl hmembers document
  have hentry : ∀ (member : String × Tree) (entry : String × List Json),
      (member.1 = entry.1 ∧ ∃ value, member.2.json? = some value ∧ Lists value entry.2) ↔
        ∃ value : String × Json, (member.1 = value.1 ∧ member.2.json? = some value.2) ∧
          value.1 = entry.1 ∧ Lists value.2 entry.2 := by
    intro member entry
    constructor
    · rintro ⟨hkey, value, hvalue, hlists⟩
      exact ⟨(member.1, value), ⟨rfl, hvalue⟩, hkey, hlists⟩
    · rintro ⟨value, ⟨hkey, hvalue⟩, hsame, hlists⟩
      exact ⟨hkey.trans hsame, value.2, hvalue, hlists⟩
  simp only [hentry]
  rw [ofTree_record, ofMembers_eq_ok_iff, ← exists_forall₂_iff]
  constructor
  · rintro ⟨values, hname, hdescription, hvalues, hsections⟩
    rw [settled_of_standFor hmembers hvalues] at hsections
    exact ⟨hname, hdescription, values, hvalues, hsections⟩
  · rintro ⟨hname, hdescription, values, hvalues, hsections⟩
    refine ⟨values, hname, hdescription, hvalues, ?_⟩
    rwa [settled_of_standFor hmembers hvalues]

/-- A name, a section that is null and one with an entry are read as they are written. -/
theorem ofTree_sampleSections :
    let members : List (String × Tree) := [("name", .string "api-service"), ("build", .null),
      ("pull", .sequence [.record [("echo", .null)]])]
    (members.map Prod.fst).Nodup ∧
      ofTree (.record members) =
        .ok ⟨some "api-service", none, .ofList [("build", []), ("pull", [.object [("echo", .null)]])]⟩ := by
  intro members
  have hnodup : (members.map Prod.fst).Nodup := by decide
  refine ⟨hnodup, ((ofTree_exactly (.record members)).2.2 members rfl hnodup _).mpr ?_⟩
  refine ⟨.text rfl, .absent rfl, ?_⟩
  exact .cons ⟨rfl, .null, rfl, .nothing⟩ (.cons ⟨rfl, _, rfl, .sequence _⟩ .nil)

/-- **Not every member counts, and not every element is data.** A section that is no sequence is passed
over where another one of the same name follows, a number that is not finite passes for null, and a
sequence is refused for a key deep inside. -/
theorem ofTree_repeated_and_foreign :
    (¬ ∀ members, (∃ document, ofTree (.record members) = .ok document) ↔
      (∃ text, GivesText members "name" text) ∧ (∃ text, GivesText members "description" text) ∧
        ∀ member ∈ sectionsIn members, member.2 = .null ∨ ∃ items, member.2 = .sequence items) ∧
      ofTree (.record [("pull", .bool true), ("pull", .sequence [])]) =
        .ok ⟨none, none, .ofList [("pull", [])]⟩ ∧
      ofTree (.record [("pull", .notFinite)]) = .ok ⟨none, none, .ofList [("pull", [])]⟩ ∧
      ofTree (.sequence [.mapping [(.bool true, .null)]]) = .error .unrecognized := by
  have hrepeated : ofTree (.record [("pull", .bool true), ("pull", .sequence [])]) =
      .ok ⟨none, none, .ofList [("pull", [])]⟩ := by decide +kernel
  refine ⟨fun h => ?_, hrepeated, by decide +kernel, by decide +kernel⟩
  obtain ⟨-, -, hsections⟩ := (h _).mp ⟨_, hrepeated⟩
  rcases hsections ("pull", .bool true) (by simp [sectionsIn, headings]) with hnull | ⟨items, hitems⟩
  · cases hnull
  · cases hitems

end PipelineDocument

end Runbook
