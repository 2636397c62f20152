import Runbook.Document
import Runbook.Proofs.Table
import Runbook.Proofs.Tree

/-! # Documents that are written and read again

A pipeline document is written in two ways. By hand its sections stand beside its name and its
description; when it is saved they stand below a member of their own. Only the first is read as the
document: in the second the one member passes for a section, which it cannot be.

* **`PipelineDocument.authoredTree`** — the document tree of a document that is written by hand.
* **`PipelineDocument.ofMembers_heading`** — behind a name and a description everything is a section,
  unless it is a second name or description.
* **`PipelineDocument.ofTree_toTree_and_authoredTree`** — no document is read from the tree in which it
  is saved, and every document is read from the tree in which it is written by hand, as long as no
  section takes the place of its name or its description. -/

namespace Runbook.PipelineDocument

/-- The sections of a document as members of a mapping. -/
def sectionMembers (document : PipelineDocument) : List (String × Tree) :=
  document.sections.entries.map fun entry => (entry.1, .sequence (Tree.ofItems entry.2))

/-- **The document tree of a document that is written by hand**: its sections stand beside its name and
its description. -/
def authoredTree (document : PipelineDocument) : Tree :=
  .record (("name", textTree document.name) :: ("description", textTree document.description) ::
    document.sectionMembers)

/-- **A document of data trees as they are**: in every mapping the members stand in order. -/
def Ordered (document : PipelineDocument) : Prop :=
  ∀ entry ∈ document.sections.entries, ∀ step ∈ entry.2, step.Ordered

/-! ## Names and descriptions -/

theorem under_cons (key k : String) (tree : Tree) (members : List (String × Tree)) :
    under key ((k, tree) :: members) =
      if k = key then tree :: under key members else under key members := by
  by_cases h : k = key <;> simp [under, h]

/-- There is something under a key if the key is there. -/
theorem under_eq_nil_iff {key : String} {members : List (String × Tree)} :
    under key members = [] ↔ key ∉ members.map Prod.fst := by
  rw [under, List.map_eq_nil_iff, List.filter_eq_nil_iff, List.mem_map]
  simp only [beq_iff_eq, not_exists, not_and]

/-- A text is read again, unless there is a second one. -/
theorem text?_textTree_cons (text : Option String) (others : List Tree) :
    text? (textTree text :: others) = if others = [] then .ok text else .error .unrecognized := by
  cases others with
  | nil => cases text <;> rfl
  | cons other others => cases text <;> rfl

/-- **Behind a name and a description everything is a section**, unless it is a second name or a second
description. -/
theorem ofMembers_heading (name description : Option String) (members : List (String × Tree)) :
    ofMembers (("name", textTree name) :: ("description", textTree description) :: members) =
      if "name" ∈ members.map Prod.fst ∨ "description" ∈ members.map Prod.fst then
        .error .unrecognized
      else
        match sectionValues? members with
        | none => .error .unrecognized
        | some values =>
          (entries (Table.ofList values).entries).map fun found => ⟨name, description, .ofList found⟩ := by
  have hname : under "name" (("name", textTree name) :: ("description", textTree description) ::
      members) = textTree name :: under "name" members := by
    rw [under_cons, if_pos rfl, under_cons, if_neg (by decide)]
  have hdescription : under "description" (("name", textTree name) ::
      ("description", textTree description) :: members) =
        textTree description :: under "description" members := by
    rw [under_cons, if_neg (by decide), under_cons, if_pos rfl]
  have hsections : sectionValues? (("name", textTree name) ::
      ("description", textTree description) :: members) = sectionValues? members := by
    rw [sectionValues?, List.filter_cons_of_neg (by simp), List.filter_cons_of_neg (by simp),
      sectionValues?]
  rw [ofMembers, hname, hdescription, hsections, text?_textTree_cons, text?_textTree_cons]
  simp only [under_eq_nil_iff]
  by_cases hfirst : "name" ∈ members.map Prod.fst
  · rw [if_pos (Or.inl hfirst), if_neg (not_not.mpr hfirst)]
    rfl
  · by_cases hsecond : "description" ∈ members.map Prod.fst
    · rw [if_pos (Or.inr hsecond), if_pos hfirst, if_neg (not_not.mpr hsecond)]
      rfl
    · rw [if_neg (not_or.mpr ⟨hfirst, hsecond⟩), if_pos hfirst, if_pos hsecond]
      cases sectionValues? members with
      | none => rfl
      | some values =>
        dsimp only
        cases entries (Table.ofList values).entries <;> rfl

/-! ## Sections -/

/-- A mapping whose keys are texts is read by its members. -/
theorem ofTree_record (members : List (String × Tree)) : ofTree (.record members) = ofMembers members := by
  rw [Tree.record, ofTree, Tree.members?_record]

/-- Sequences are sections as they stand. -/
theorem entries_arrays (sections : List (String × List Json)) :
    entries (sections.map fun entry => (entry.1, .array entry.2)) = .ok sections := by
  induction sections with
  | nil => rfl
  | cons first rest ih =>
    rw [List.map_cons, entries, ih]
    rfl

/-- Trees of data under other keys than those of a name and a description are read as data. -/
theorem sectionValues?_ofJson {values : List (String × Json)}
    (hkeys : ∀ value ∈ values, value.1 ≠ "name" ∧ value.1 ≠ "description")
    (hordered : ∀ value ∈ values, value.2.Ordered) :
    sectionValues? (values.map fun value => (value.1, Tree.ofJson value.2)) = some values := by
  rw [sectionValues?, List.filter_eq_self.mpr]
  · refine mapM_map_eq_some fun value hvalue => ?_
    dsimp only
    rw [Tree.json?_ofJson (hordered value hvalue), Option.map_some]
  · refine List.forall_mem_map.mpr fun value hvalue => ?_
    obtain ⟨hname, hdescription⟩ := hkeys value hvalue
    simp [hname, hdescription]

/-- The sections of a document as data. -/
def sectionData (document : PipelineDocument) : List (String × Json) :=
  document.sections.entries.map fun entry => (entry.1, .array entry.2)

theorem sectionMembers_eq (document : PipelineDocument) :
    document.sectionMembers =
      document.sectionData.map fun value => (value.1, Tree.ofJson value.2) := by
  rw [sectionMembers, sectionData, List.map_map]
  exact List.map_congr_left fun entry _ => by rw [Function.comp_apply, Tree.ofJson]

theorem ordered_sectionData {document : PipelineDocument} (h : document.Ordered) :
    ∀ value ∈ document.sectionData, value.2.Ordered :=
  List.forall_mem_map.mpr fun entry hentry => .array (h entry hentry)

theorem keys_sectionData (document : PipelineDocument) :
    document.sectionData.map Prod.fst = document.sections.keys := List.map_map

/-- **A document that is written by hand is read as it was written**, as long as no section takes the
place of its name or its description. -/
theorem ofTree_authoredTree {document : PipelineDocument} (h : document.Ordered) :
    ofTree document.authoredTree =
      if "name" ∈ document.sections.keys ∨ "description" ∈ document.sections.keys then
        .error .unrecognized
      else .ok document := by
  have hkeys : document.sectionMembers.map Prod.fst = document.sections.keys := List.map_map
  rw [authoredTree, ofTree_record, ofMembers_heading, hkeys]
  refine ite_congr rfl (fun _ => rfl) fun hfree => ?_
  rw [not_or] at hfree
  have hvalues : sectionValues? document.sectionMembers = some document.sectionData := by
    rw [sectionMembers_eq]
    refine sectionValues?_ofJson (fun value hvalue => ?_) (ordered_sectionData h)
    have hmem : value.1 ∈ document.sections.keys :=
      document.keys_sectionData ▸ List.mem_map_of_mem hvalue
    exact ⟨fun heq => hfree.1 (heq ▸ hmem), fun heq => hfree.2 (heq ▸ hmem)⟩
  have hentries : (Table.ofList document.sectionData).entries = document.sectionData := by
    rw [Table.entries_ofList, Table.settled_of_nodup]
    rw [keys_sectionData]
    exact document.sections.nodup
  rw [hvalues]
  dsimp only
  rw [hentries, sectionData, entries_arrays, Except.map, Table.ofList_entries]

/-- **A document that is saved is not read**: the member below which its sections stand passes for a
section, which it cannot be. -/
theorem ofTree_toTree {document : PipelineDocument} (h : document.Ordered) :
    ofTree document.toTree = .error (.notASequence "sections") := by
  let fields := document.sectionData
  have htree : document.toTree = .record [("name", textTree document.name),
      ("description", textTree document.description), ("sections", .mapping (Tree.ofFields fields))] := by
    rw [toTree, ← Tree.record_ofJson, ← sectionMembers_eq]
    rfl
  have hjson : (Tree.mapping (Tree.ofFields fields)).json? =
      some (.object (Fields.ofList fields)) := by
    have hfound : ∀ field ∈ fields, (Tree.ofJson field.2).json? = some field.2 :=
      fun field hfield => Tree.json?_ofJson (ordered_sectionData h field hfield)
    rw [Tree.json?, Tree.jsonMembers?_ofFields hfound, Option.map_some]
  have hvalues : sectionValues? [("sections", .mapping (Tree.ofFields fields))] =
      some [("sections", .object (Fields.ofList fields))] := by
    rw [sectionValues?, List.filter_eq_self.mpr (by simp), List.mapM_cons]
    dsimp only
    rw [hjson]
    rfl
  rw [htree, ofTree_record, ofMembers_heading, if_neg (by simp), hvalues]
  rfl

/-- **Saving and writing by hand are not the same.** No document is read from the tree in which it is
saved: it is always refused for a section of the name `sections`. From the tree in which it is written
by hand a document is read as it is, its sections in their order, if and only if none of them takes
the place of its name or of its description. -/
theorem ofTree_toTree_and_authoredTree (document : PipelineDocument) (h : document.Ordered) :
    ofTree document.toTree = .error (.notASequence "sections") ∧
      (ofTree document.authoredTree = .ok document ↔
        "name" ∉ document.sections.keys ∧ "description" ∉ document.sections.keys) := by
  refine ⟨ofTree_toTree h, ?_⟩
  rw [ofTree_authoredTree h, ← not_or]
  by_cases htaken : "name" ∈ document.sections.keys ∨ "description" ∈ document.sections.keys
  · simp [htaken]
  · simp [htaken]

/-- A document with a name, an empty section and one with an entry. -/
def sampleDocument : PipelineDocument where
  name := some "api-service"
  description := none
  sections := .ofList [("build", []), ("pull", [.object [("echo", .null)]])]

/-- It is read as it is written by hand, and refused as it is saved. -/
theorem ofTree_sampleDocument :
    sampleDocument.Ordered ∧
      ofTree sampleDocument.toTree = .error (.notASequence "sections") ∧
      ofTree sampleDocument.authoredTree = .ok sampleDocument := by
  have hentries : sampleDocument.sections.entries =
      [("build", []), ("pull", [.object [("echo", .null)]])] := by decide +kernel
  have hordered : sampleDocument.Ordered := by
    rw [Ordered, hentries]
    simp only [List.forall_mem_cons, List.not_mem_nil, false_implies, implies_true, true_and, and_true]
    refine .object (by decide +kernel) (List.forall_mem_singleton.mpr .null)
  obtain ⟨hsaved, hauthored⟩ := ofTree_toTree_and_authoredTree sampleDocument hordered
  exact ⟨hordered, hsaved, hauthored.mpr (by decide +kernel)⟩

/-- The smallest document of one section. -/
def emptySteps : PipelineDocument := ⟨none, none, .ofList [("steps", [])]⟩

/-- It is not read again when it has been saved, although no section has the name of another field. -/
theorem toTree_emptySteps_lost :
    ("name" ∉ emptySteps.sections.keys ∧ "description" ∉ emptySteps.sections.keys) ∧
      ofTree emptySteps.toTree ≠ .ok emptySteps := by
  decide +kernel

end Runbook.PipelineDocument
