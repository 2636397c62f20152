import Runbook.Proofs.Reference.Path
import Runbook.Proofs.Resolution.Addresses
import Runbook.Proofs.Text.Ascii

/-! # References as they are written

Four kinds of references share one syntax of expressions. Each reference has a text from which it is
read again, and whatever is read from an expression has the shape of its kind.

* **`Reference.render`** — the text of a reference, with its path in brackets.
* **`Reference.Writable`** — a reference whose names and segments do not break its text.
* **`Reference.WellFormed`** — what the references that are read have in common.
* **`Reference.parse?_of_trim_block`**, **`Reference.parse?_of_trim_variable`** — how blocks and variables
  are read, with whatever stands behind their names.
* **`Reference.parse?_render`** — writable references are read again from their texts, and only
  well-formed ones are read from any text. -/

namespace Runbook.Reference

/-! ## Names -/

/-- **A name that stands between dots**: it is not empty and has no dot itself. -/
structure IsName (name : String) : Prop where
  ne_empty : name ≠ ""
  dot_notMem : '.' ∉ name.toList

instance : DecidablePred IsName := fun name =>
  decidable_of_iff (name ≠ "" ∧ '.' ∉ name.toList) ⟨fun h => ⟨h.1, h.2⟩, fun h => ⟨h.1, h.2⟩⟩

theorem IsName.toList_ne_nil {name : String} (h : IsName name) : name.toList ≠ [] := fun hnil =>
  h.ne_empty (String.toList_eq_nil_iff.mp hnil)

/-- **A name of an environment variable**: an ASCII letter or an underscore, then ASCII letters, ASCII
digits and underscores. -/
def IsVariableName (name : String) : Prop :=
  ∃ first rest, name.toList = first :: rest ∧ (first.isAlpha = true ∨ first = '_') ∧
    ∀ c ∈ rest, c.isAlphanum = true ∨ c = '_'

theorem isEnvironmentName_iff {name : List Char} :
    isEnvironmentName name = true ↔ IsVariableName (String.ofList name) := by
  rw [IsVariableName, String.toList_ofList]
  cases name with
  | nil => simp [isEnvironmentName]
  | cons first rest => simp [isEnvironmentName, Text.isNameChar]

instance : DecidablePred IsVariableName := fun name =>
  decidable_of_iff (isEnvironmentName name.toList = true) (by
    rw [isEnvironmentName_iff, String.ofList_toList])

/-- A name of an environment variable has no blanks. -/
theorem isBlank_of_mem_variableName {name : String} (h : IsVariableName name) :
    ∀ c ∈ name.toList, Text.isBlank c = false := by
  obtain ⟨first, rest, htoList, hfirst, hrest⟩ := h
  have hchar : ∀ c : Char, c.isAlphanum = true ∨ c = '_' → Text.isBlank c = false := by
    rintro c (halnum | rfl)
    · exact Text.isBlank_of_isAlphanum halnum
    · decide
  rw [htoList, List.forall_mem_cons]
  refine ⟨hchar first (hfirst.imp_left fun halpha => ?_), fun c hc => hchar c (hrest c hc)⟩
  rw [Char.isAlphanum, halpha, Bool.true_or]

/-! ## Texts of references -/

/-- The text of a block without a path. -/
def blockText (type name : String) : String := "store.blocks." ++ type ++ "." ++ name

/-- The text of a variable without a path. -/
def variableText (name : String) : String := "store.variables." ++ name

/-- What stands behind a name: nothing, or a dot and the text of a path. -/
def behind : Option (List Char) → List Char
  | none => []
  | some path => '.' :: path

/-- The path of a reference in brackets, if there is any. -/
def pathText? : List String → Option (List Char)
  | [] => none
  | path => some (Path.bracketed path)

/-- **The text of a reference**, with its path in brackets. -/
def render : Reference → String
  | .block type name path => blockText type name ++ String.ofList (behind (pathText? path))
  | .variable name path => variableText name ++ String.ofList (behind (pathText? path))
  | .environment name => "$" ++ name
  | .output path => String.ofList (Path.bracketed path)

/-- **A reference that its text does not break**: its names stand between dots and are trimmed, and
its segments stand between brackets. -/
def Writable : Reference → Prop
  | .block type name path =>
    (IsName type ∧ Text.IsTrimmed type.toList) ∧ (IsName name ∧ Text.IsTrimmed name.toList) ∧
      ∀ segment ∈ path, Path.Enclosable segment
  | .variable name path =>
    (IsName name ∧ Text.IsTrimmed name.toList) ∧ ∀ segment ∈ path, Path.Enclosable segment
  | .environment name => IsVariableName name
  | .output path => path ≠ [] ∧ ∀ segment ∈ path, Path.Enclosable segment

instance : DecidablePred Writable
  | .block type name path =>
    inferInstanceAs (Decidable ((IsName type ∧ Text.IsTrimmed type.toList) ∧
      (IsName name ∧ Text.IsTrimmed name.toList) ∧ ∀ segment ∈ path, Path.Enclosable segment))
  | .variable name path =>
    inferInstanceAs (Decidable ((IsName name ∧ Text.IsTrimmed name.toList) ∧
      ∀ segment ∈ path, Path.Enclosable segment))
  | .environment name => inferInstanceAs (Decidable (IsVariableName name))
  | .output path => inferInstanceAs (Decidable (path ≠ [] ∧ ∀ segment ∈ path, Path.Enclosable segment))

/-- **A reference of the shape that its kind has**: its names stand between dots, no segment of its
path is empty, and an output has a path. -/
def WellFormed : Reference → Prop
  | .block type name path => IsName type ∧ IsName name ∧ ∀ segment ∈ path, segment ≠ ""
  | .variable name path => IsName name ∧ ∀ segment ∈ path, segment ≠ ""
  | .environment name => IsVariableName name
  | .output path => path ≠ [] ∧ ∀ segment ∈ path, segment ≠ ""

/-! ## Names in front of a path -/

/-- There is no dot before the first one. -/
theorem dot_notMem_cutAtDot (text : List Char) : '.' ∉ (cutAtDot text).1 := by
  induction text with
  | nil => exact List.not_mem_nil
  | cons c rest ih =>
    rw [cutAtDot]
    split
    · exact List.not_mem_nil
    · rename_i hc
      exact List.not_mem_cons_of_ne_of_not_mem (fun heq => hc heq.symm) ih

/-- A name ends where its path begins. -/
theorem cutAtDot_behind {name : List Char} (h : '.' ∉ name) (path : Option (List Char)) :
    cutAtDot (name ++ behind path) = (name, path) := by
  induction name with
  | nil => cases path <;> rfl
  | cons c name ih =>
    rw [List.mem_cons, not_or] at h
    rw [List.cons_append, cutAtDot, if_neg fun heq => h.1 heq.symm, ih h.2]

theorem ofVariableText?_behind {name : String} (h : IsName name) (path : Option (List Char)) :
    ofVariableText? (name.toList ++ behind path) = (optionalPath? path).map (.variable name) := by
  rw [ofVariableText?, cutAtDot_behind h.dot_notMem]
  simp [List.isEmpty_iff, h.toList_ne_nil]

theorem ofBlockText?_behind {type name : String} (htype : IsName type) (hname : IsName name)
    (path : Option (List Char)) :
    ofBlockText? (type.toList ++ '.' :: (name.toList ++ behind path)) =
      (optionalPath? path).map (.block type name) := by
  have hcut := cutAtDot_behind htype.dot_notMem (some (name.toList ++ behind path))
  rw [behind] at hcut
  rw [ofBlockText?, hcut]
  simp [List.isEmpty_iff, htype.toList_ne_nil, hname.toList_ne_nil, cutAtDot_behind hname.dot_notMem]

/-! ## Openings -/

theorem afterOpening?_append (opening text : List Char) :
    afterOpening? opening (opening ++ text) = some text := by
  induction opening with
  | nil => rfl
  | cons c opening ih => rw [List.cons_append, afterOpening?, if_pos rfl, ih]

theorem toList_blockText (type name : String) :
    (blockText type name).toList = blockOpening ++ (type.toList ++ '.' :: name.toList) := by
  unfold blockText
  rw [String.toList_append, String.toList_append, String.toList_append, List.append_assoc,
    List.append_assoc]
  rfl

theorem toList_variableText (name : String) :
    (variableText name).toList = variableOpening ++ name.toList := by
  unfold variableText
  rw [String.toList_append]
  rfl

/-- **A block is read with whatever path stands behind its name.** -/
theorem parse?_of_trim_block {type name : String} (htype : IsName type) (hname : IsName name)
    {expression : List Char} {path : Option (List Char)}
    (h : Text.trim expression = (blockText type name).toList ++ behind path) :
    parse? expression = (optionalPath? path).map (.block type name) := by
  have hafter : afterOpening? blockOpening (Text.trim expression) =
      some (type.toList ++ '.' :: (name.toList ++ behind path)) := by
    rw [h, toList_blockText, List.append_assoc, afterOpening?_append, List.append_assoc,
      List.cons_append]
  rw [parse?]
  simp only [hafter]
  exact ofBlockText?_behind htype hname path

/-- **A variable is read with whatever path stands behind its name.** -/
theorem parse?_of_trim_variable {name : String} (hname : IsName name) {expression : List Char}
    {path : Option (List Char)}
    (h : Text.trim expression = (variableText name).toList ++ behind path) :
    parse? expression = (optionalPath? path).map (.variable name) := by
  have hblock : afterOpening? blockOpening (Text.trim expression) = none := by
    rw [h, toList_variableText]
    rfl
  have hafter : afterOpening? variableOpening (Text.trim expression) =
      some (name.toList ++ behind path) := by
    rw [h, toList_variableText, List.append_assoc, afterOpening?_append]
  rw [parse?]
  simp only [hblock, hafter]
  exact ofVariableText?_behind hname path

/-! ## Texts are read again -/

/-- Trimming takes nothing away from a name with a path in brackets. -/
theorem isTrimmed_behind {front name : List Char} (hfront : front ≠ []) (hname : name ≠ [])
    (hhead : ∀ c ∈ front.head?, Text.isBlank c = false) (htrim : Text.IsTrimmed name)
    (path : List String) : Text.IsTrimmed (front ++ name ++ behind (pathText? path)) := by
  cases path with
  | nil =>
    rw [pathText?, behind, List.append_nil]
    exact Text.isTrimmed_append hfront hname hhead htrim.2
  | cons segment rest =>
    have hsplit : front ++ name ++ behind (pathText? (segment :: rest)) =
        (front ++ name ++ ['.']) ++ Path.bracketed (segment :: rest) := by
      simp [pathText?, behind]
    rw [hsplit]
    refine Text.isTrimmed_append (by simp) (Path.bracketed_ne_nil (List.cons_ne_nil _ _)) ?_
      (Path.isTrimmed_bracketed _).2
    rwa [List.append_assoc, List.head?_append_of_ne_nil front hfront]

theorem isTrimmed_blockText {name : String} (hname : IsName name)
    (htrim : Text.IsTrimmed name.toList) (type : String) (path : List String) :
    Text.IsTrimmed ((blockText type name).toList ++ behind (pathText? path)) := by
  have hfront : (blockText type name).toList =
      (blockOpening ++ (type.toList ++ ['.'])) ++ name.toList := by
    simp [toList_blockText]
  rw [hfront]
  exact isTrimmed_behind (List.cons_ne_nil _ _) hname.toList_ne_nil
    (Text.forall_mem_head?_cons (by decide) _) htrim path

theorem isTrimmed_variableText {name : String} (hname : IsName name)
    (htrim : Text.IsTrimmed name.toList) (path : List String) :
    Text.IsTrimmed ((variableText name).toList ++ behind (pathText? path)) := by
  rw [toList_variableText]
  exact isTrimmed_behind (List.cons_ne_nil _ _) hname.toList_ne_nil
    (Text.forall_mem_head?_cons (by decide) _) htrim path

theorem optionalPath?_pathText? {path : List String} (h : ∀ segment ∈ path, Path.Enclosable segment) :
    optionalPath? (pathText? path) = some path := by
  cases path with
  | nil => rfl
  | cons segment rest => exact Path.parse?_bracketed (List.cons_ne_nil _ _) h

/-- **Every writable reference is read from its text.** -/
theorem parse?_render_of_writable : ∀ {target : Reference}, target.Writable →
    parse? target.render.toList = some target
  | .block type name path, h => by
    obtain ⟨⟨htype, -⟩, ⟨hname, htrim⟩, hpath⟩ := h
    have htext : (render (.block type name path)).toList =
        (blockText type name).toList ++ behind (pathText? path) := by
      rw [render, String.toList_append, String.toList_ofList]
    have htrimmed := isTrimmed_blockText hname htrim type path
    rw [htext, parse?_of_trim_block htype hname (Text.trim_eq_self htrimmed),
      optionalPath?_pathText? hpath, Option.map_some]
  | .variable name path, h => by
    obtain ⟨⟨hname, htrim⟩, hpath⟩ := h
    have htext : (render (.variable name path)).toList =
        (variableText name).toList ++ behind (pathText? path) := by
      rw [render, String.toList_append, String.toList_ofList]
    have htrimmed := isTrimmed_variableText hname htrim path
    rw [htext, parse?_of_trim_variable hname (Text.trim_eq_self htrimmed),
      optionalPath?_pathText? hpath, Option.map_some]
  | .environment name, h => by
    have hname : isEnvironmentName name.toList = true := by
      rw [isEnvironmentName_iff, String.ofList_toList]
      exact h
    have htrim : Text.trim ('$' :: name.toList) = '$' :: name.toList := by
      refine Text.trim_eq_self ⟨Text.forall_mem_head?_cons (by decide) _, fun c hc => ?_⟩
      rcases List.mem_cons.mp (List.mem_of_mem_getLast? hc) with rfl | hmem
      · decide
      · exact isBlank_of_mem_variableName h c hmem
    have htext : (render (.environment name)).toList = '$' :: name.toList := by
      rw [render, String.toList_append]
      rfl
    rw [htext, parse?, htrim]
    simp [blockOpening, variableOpening, afterOpening?, hname]
  | .output path, h => by
    obtain ⟨hne, hpath⟩ := h
    rw [render, String.toList_ofList]
    exact parse?_enclosed hne hpath

/-! ## What is read is well formed -/

theorem isName_of_cutAtDot {text : List Char} (hne : (cutAtDot text).1 ≠ []) :
    IsName (String.ofList (cutAtDot text).1) where
  ne_empty := fun hempty => hne (String.ofList_eq_empty_iff.mp hempty)
  dot_notMem := by
    rw [String.toList_ofList]
    exact dot_notMem_cutAtDot text

theorem filled_of_optionalPath? {text : Option (List Char)} {path : List String}
    (h : optionalPath? text = some path) : ∀ segment ∈ path, segment ≠ "" := by
  cases text with
  | none =>
    cases h
    exact fun segment hsegment => absurd hsegment List.not_mem_nil
  | some text => exact (Path.shape_of_parse? h).2

theorem wellFormed_of_ofVariableText? {text : List Char} {target : Reference}
    (h : ofVariableText? text = some target) : target.WellFormed := by
  rw [ofVariableText?] at h
  dsimp only at h
  split at h
  · cases h
  · rename_i hname
    obtain ⟨path, hpath, rfl⟩ := Option.map_eq_some_iff.mp h
    exact ⟨isName_of_cutAtDot (by simpa using hname), filled_of_optionalPath? hpath⟩

theorem wellFormed_of_ofBlockText? {text : List Char} {target : Reference}
    (h : ofBlockText? text = some target) : target.WellFormed := by
  rw [ofBlockText?] at h
  split at h
  · cases h
  · rename_i type rest hcut
    dsimp only at h
    split at h
    · cases h
    · rename_i hnames
      obtain ⟨path, hpath, rfl⟩ := Option.map_eq_some_iff.mp h
      have htype : (cutAtDot text).1 = type := by rw [hcut]
      rw [← htype] at hnames ⊢
      simp only [Bool.or_eq_true, List.isEmpty_iff, not_or] at hnames
      exact ⟨isName_of_cutAtDot hnames.1, isName_of_cutAtDot hnames.2, filled_of_optionalPath? hpath⟩

/-- **Whatever is read from an expression has the shape of its kind.** -/
theorem wellFormed_of_parse? {expression : List Char} {target : Reference}
    (h : parse? expression = some target) : target.WellFormed := by
  rw [parse?] at h
  split at h
  · exact wellFormed_of_ofBlockText? h
  · split at h
    · exact wellFormed_of_ofVariableText? h
    · split at h
      · split at h
        · rename_i hname
          cases h
          exact isEnvironmentName_iff.mp hname
        · cases h
      · obtain ⟨path, hpath, rfl⟩ := Option.map_eq_some_iff.mp h
        exact Path.shape_of_parse? hpath

/-- **References and their texts.** Every reference whose names are trimmed and stand between dots, and
whose segments are trimmed and stand between brackets, is read from its text as it is: no name and no
segment is taken for a dot, a bracket or the opening of another kind. And whatever is read from any
expression at all has names without dots that are not empty, no empty segment, a path if it is an
output, and the name of an environment variable if it is one. -/
theorem parse?_render :
    (∀ target : Reference, target.Writable → parse? target.render.toList = some target) ∧
      ∀ (expression : List Char) (target : Reference), parse? expression = some target →
        target.WellFormed :=
  ⟨fun _ h => parse?_render_of_writable h, fun _ _ h => wellFormed_of_parse? h⟩

/-- A block whose segments look like texts of other references. -/
def sampleBlock : Reference :=
  .block "git credentials" "ci[0]" ["a.b", "$HOME", "store.variables.x", "[ y"]

/-- It is read from its text, and so is a block with blanks at the end of its name. -/
theorem parse?_render_sampleBlock :
    sampleBlock.Writable ∧
      sampleBlock.render =
        "store.blocks.git credentials.ci[0].[a.b][$HOME][store.variables.x][[ y]" ∧
      parse? sampleBlock.render.toList = some sampleBlock ∧
      parse? " store.blocks.a.b .c[ 0 ]".toList = some (.block "a" "b " ["c", "0"]) ∧
      (Reference.block "a" "b " ["c", "0"]).WellFormed := by
  have hwritable : sampleBlock.Writable := by decide +kernel
  have hread : parse? " store.blocks.a.b .c[ 0 ]".toList = some (.block "a" "b " ["c", "0"]) := by
    decide +kernel
  exact ⟨hwritable, by decide +kernel, parse?_render.1 sampleBlock hwritable, hread,
    parse?_render.2 _ _ hread⟩

end Runbook.Reference
