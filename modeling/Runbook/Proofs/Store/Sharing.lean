import Runbook.Proofs.Resolution.Payloads
import Runbook.Proofs.Text.Ascii

/-! # Blocks that share a variable

A block of an environment store is one environment variable. The name of the variable joins the type and
the name of the block by an underscore, and an underscore also stands for whatever is no letter or digit
in them. So the variable of a block does not tell where its type ends.

* **`EnvironmentStore.Consults`** — the reading of a block depends on a variable, which is that of the
  block and no other (`consults_iff`).
* **`EnvironmentStore.Variants`** — texts that are written alike in names of variables.
* **`EnvironmentStore.ReachesInto`** — a type that takes in the beginning of another block's name.
* **`EnvironmentStore.blockVariable_eq_iff`** — which blocks have the same variable.
* **`EnvironmentStore.consults_same_iff`** — which blocks are read from the same variable, and what
  becomes of all blocks when the variable of one is set. -/

namespace Runbook

namespace Environment

/-- A variable that is set last has its new value, and all others have theirs. -/
theorem value?_overlay_singleton (environment : Environment) (key text other : String) :
    (environment.overlay [(key, text)]).value? other =
      if other = key then some text else environment.value? other := by
  simp only [overlay, List.reverse_singleton, List.lookup_cons, List.lookup_nil]
  by_cases h : other = key
  · rw [if_pos h, beq_iff_eq.mpr h]
    rfl
  · rw [if_neg h, beq_eq_false_iff_ne.mpr h]
    rfl

end Environment

namespace EnvironmentStore

variable {type name otherType otherName text other key : String} {environment : Environment}

/-! ## The variable that a block is read from -/

/-- The variable of a block is not the one that chooses the backend. -/
theorem choiceVariable_ne_blockVariable : SecretsBackend.choiceVariable ≠ blockVariable type name := by
  intro h
  have hchars := congrArg (fun key => key.toList[7]?) h
  simp [SecretsBackend.choiceVariable, blockVariable, entryVariable] at hchars

/-- To set the variable of a block leaves the backend as it is. -/
theorem ofEnvironment_overlay :
    SecretsBackend.ofEnvironment (environment.overlay [(blockVariable type name, text)]) =
      SecretsBackend.ofEnvironment environment := by
  simp only [SecretsBackend.ofEnvironment, Environment.value?_overlay_singleton,
    if_neg choiceVariable_ne_blockVariable]

/-- A block is read alike from two environments in which its variable is the same. -/
theorem readBlock_congr {changed : Environment}
    (hbackend : SecretsBackend.ofEnvironment changed = SecretsBackend.ofEnvironment environment)
    (hvalue : changed.value? (blockVariable type name) = environment.value? (blockVariable type name)) :
    (ofEnvironment changed).toStore.readBlock type name =
      (ofEnvironment environment).toStore.readBlock type name := by
  simp only [toStore, readBlock, ofEnvironment, hbackend, hvalue]

/-- The environment that chooses itself as the backend and has no blocks. -/
def bareEnvironment : Environment := .ofList [(SecretsBackend.choiceVariable, "env")]

theorem ofEnvironment_bareEnvironment :
    SecretsBackend.ofEnvironment bareEnvironment = .environment := by decide +kernel

theorem readBlock_bareEnvironment :
    (ofEnvironment bareEnvironment).toStore.readBlock type name =
      .error (.blockNotFound type name) := by
  have hother : (blockVariable type name == SecretsBackend.choiceVariable) = false :=
    beq_eq_false_iff_ne.mpr choiceVariable_ne_blockVariable.symm
  have hunset : bareEnvironment.value? (blockVariable type name) = none := by
    simp [bareEnvironment, Environment.ofList, List.lookup_cons, hother]
  simp only [toStore, readBlock, ofEnvironment, ofEnvironment_bareEnvironment, hunset]

/-- **The reading of a block depends on a variable**: of two environments that choose themselves as the
backend and that differ in this variable alone, one gives another block than the other. -/
def Consults (type name key : String) : Prop :=
  ∃ environment changed : Environment,
    SecretsBackend.ofEnvironment environment = .environment ∧
    SecretsBackend.ofEnvironment changed = .environment ∧
    (∀ other, other ≠ key → changed.value? other = environment.value? other) ∧
    (ofEnvironment changed).toStore.readBlock type name ≠ (ofEnvironment environment).toStore.readBlock type name

/-- **A block is read from its own variable** and from no other. -/
theorem consults_iff : Consults type name key ↔ key = blockVariable type name := by
  constructor
  · rintro ⟨environment, changed, hbackend, hchangedBackend, hothers, hchanged⟩
    by_contra hne
    exact hchanged (readBlock_congr (hchangedBackend.trans hbackend.symm)
      (hothers _ fun h => hne h.symm))
  · rintro rfl
    refine ⟨bareEnvironment, bareEnvironment.overlay [(blockVariable type name, "")],
      ofEnvironment_bareEnvironment, ofEnvironment_overlay.trans ofEnvironment_bareEnvironment, ?_, ?_⟩
    · intro other hother
      rw [Environment.value?_overlay_singleton, if_neg hother]
    · have hset := bareEnvironment.value?_overlay_singleton (blockVariable type name) ""
        (blockVariable type name)
      rw [if_pos rfl] at hset
      rw [readBlock_bareEnvironment,
        readBlock_of_value? (ofEnvironment_overlay.trans ofEnvironment_bareEnvironment) hset]
      exact nofun

/-! ## Texts in names of variables -/

/-- **Texts that are written alike in names of variables**: they differ at most in the case of ASCII
letters and in characters that are neither ASCII letters nor digits. -/
def Variants (text other : String) : Prop := keyPart text.toList = keyPart other.toList

instance : Decidable (Variants text other) :=
  inferInstanceAs (Decidable (keyPart text.toList = keyPart other.toList))

theorem Variants.symm (h : Variants text other) : Variants other text := Eq.symm h

/-- **A type that reaches into the name of another block**: behind the other type it goes on, after a
separator, with what the other name has in front of the name of its own block. -/
def ReachesInto (type name otherType otherName : String) : Prop :=
  ∃ middle, Variants type (otherType ++ "_" ++ middle) ∧ Variants otherName (middle ++ "_" ++ name)

theorem keyPart_append_cons (text other : List Char) :
    keyPart (text ++ '_' :: other) = keyPart text ++ '_' :: keyPart other := by
  have hseparator : (if '_'.isAlphanum then '_'.toUpper else '_') = '_' := by decide
  rw [keyPart, List.map_append, List.map_cons, hseparator, keyPart, keyPart]

theorem variants_joined_iff {before after : String} :
    Variants text (before ++ "_" ++ after) ↔
      keyPart text.toList = keyPart before.toList ++ '_' :: keyPart after.toList := by
  have hjoined : (before ++ "_" ++ after).toList = before.toList ++ '_' :: after.toList := by
    simp
  rw [Variants, hjoined, keyPart_append_cons]

/-- What stands behind a separator in a name of a variable is a part of the text. -/
theorem exists_keyPart_eq {text front back : List Char} (h : keyPart text = front ++ '_' :: back) :
    ∃ rest, keyPart rest = back := by
  obtain ⟨start, behind, -, -, hbehind⟩ := List.map_eq_append_iff.mp h
  obtain ⟨separator, rest, -, -, hrest⟩ := List.map_eq_cons_iff.mp hbehind
  exact ⟨rest, hrest⟩

/-- A text of letters and digits has no separator in names of variables. -/
theorem notMem_keyPart {text : List Char} (h : ∀ c ∈ text, c.isAlphanum = true) :
    '_' ∉ keyPart text := by
  intro hmem
  obtain ⟨c, hc, hupper⟩ := List.mem_map.mp hmem
  rw [if_pos (h c hc)] at hupper
  have hlower : c.toLower = '_' := by
    rw [← Text.toLower_toUpper, hupper]
    rfl
  have hletter : c.toLower.isAlphanum = true := (Text.isAlphanum_toLower c).trans (h c hc)
  rw [hlower] at hletter
  exact absurd hletter (by decide)

/-- A type that reaches into a name has a separator in it, and so has the name. -/
theorem ReachesInto.not_isAlphanum (h : ReachesInto type name otherType otherName) :
    ¬ (∀ c ∈ type.toList, c.isAlphanum = true) ∧ ¬ ∀ c ∈ otherName.toList, c.isAlphanum = true := by
  obtain ⟨middle, htype, hname⟩ := h
  constructor
  · intro hletters
    refine notMem_keyPart hletters ?_
    rw [variants_joined_iff.mp htype]
    exact List.mem_append_right _ List.mem_cons_self
  · intro hletters
    refine notMem_keyPart hletters ?_
    rw [variants_joined_iff.mp hname]
    exact List.mem_append_right _ List.mem_cons_self

/-! ## Blocks with the same variable -/

/-- **Blocks that share a variable**: their types and names are written alike, or the type of one
reaches into the name of the other. -/
def Share (type name otherType otherName : String) : Prop :=
  (Variants type otherType ∧ Variants name otherName) ∨
    ReachesInto type name otherType otherName ∨ ReachesInto otherType otherName type name

theorem toList_blockVariable (type name : String) :
    (blockVariable type name).toList =
      "RIGGER_BLOCK_".toList ++ (keyPart type.toList ++ '_' :: keyPart name.toList) := by
  simp [blockVariable, entryVariable]

/-- A type that is as long as another or longer takes in a separator of the other block's name, or else
nothing of it. -/
theorem variants_or_reachesInto {rest : List Char}
    (htype : keyPart type.toList = keyPart otherType.toList ++ rest)
    (hname : '_' :: keyPart otherName.toList = rest ++ '_' :: keyPart name.toList) :
    (Variants type otherType ∧ Variants name otherName) ∨
      ReachesInto type name otherType otherName := by
  cases rest with
  | nil =>
    rw [List.append_nil] at htype
    exact .inl ⟨htype, (List.cons.inj hname).2.symm⟩
  | cons separator back =>
    obtain ⟨rfl, hback⟩ := List.cons.inj hname
    obtain ⟨middle, rfl⟩ := exists_keyPart_eq htype
    refine .inr ⟨String.ofList middle, ?_, ?_⟩
    · rw [variants_joined_iff, String.toList_ofList, htype]
    · rw [variants_joined_iff, String.toList_ofList]
      exact hback

/-- **Blocks have the same variable just if they share it** by what their types and names are. -/
theorem blockVariable_eq_iff :
    blockVariable type name = blockVariable otherType otherName ↔
      Share type name otherType otherName := by
  rw [← String.toList_inj, toList_blockVariable, toList_blockVariable, List.append_cancel_left_eq]
  constructor
  · intro h
    -- the two types end at the same place, or the separator behind one stands in the other block's name
    obtain ⟨rest, hother, hname⟩ | ⟨rest, htype, hotherName⟩ := List.append_eq_append_iff.mp h
    · obtain ⟨htypes, hnames⟩ | hreaches := variants_or_reachesInto hother hname
      · exact .inl ⟨htypes.symm, hnames.symm⟩
      · exact .inr (.inr hreaches)
    · exact (variants_or_reachesInto htype hotherName).imp_right .inl
  · rintro (⟨htype, hname⟩ | ⟨middle, htype, hname⟩ | ⟨middle, htype, hname⟩)
    · rw [htype, hname]
    · rw [variants_joined_iff.mp htype, variants_joined_iff.mp hname, List.append_assoc,
        List.cons_append]
    · rw [variants_joined_iff.mp htype, variants_joined_iff.mp hname, List.append_assoc,
        List.cons_append]

instance : Decidable (Share type name otherType otherName) :=
  decidable_of_iff _ blockVariable_eq_iff

/-- **Which blocks are read from the same variable.** They are those whose types and names are written
alike, and those where the type of one reaches into the name of the other, which takes a separator in
both. When the variable of a block is set, these are the blocks that get its text; all others are read
as before. -/
theorem consults_same_iff (type name otherType otherName : String) :
    ((∃ key, Consults type name key ∧ Consults otherType otherName key) ↔
      Share type name otherType otherName) ∧
    (∀ (environment : Environment) (text : String),
      SecretsBackend.ofEnvironment environment = .environment →
      (ofEnvironment (environment.overlay [(blockVariable type name, text)])).toStore.readBlock
          otherType otherName =
        if Share type name otherType otherName then .ok (document (Json.ofPayload text))
        else (ofEnvironment environment).toStore.readBlock otherType otherName) ∧
    ((∀ c ∈ type.toList ++ otherType.toList, c.isAlphanum = true) ∨
        (∀ c ∈ name.toList ++ otherName.toList, c.isAlphanum = true) →
      Share type name otherType otherName → Variants type otherType ∧ Variants name otherName) := by
  refine ⟨?same, ?set, ?plain⟩
  case same =>
    simp only [consults_iff, exists_eq_left]
    exact blockVariable_eq_iff
  case set =>
    intro environment text hbackend
    have hvalue := environment.value?_overlay_singleton (blockVariable type name) text
      (blockVariable otherType otherName)
    split
    · rename_i hshare
      exact readBlock_of_value? (ofEnvironment_overlay.trans hbackend)
        (hvalue.trans (if_pos (blockVariable_eq_iff.mpr hshare).symm))
    · rename_i hshare
      exact readBlock_congr ofEnvironment_overlay
        (hvalue.trans (if_neg fun h => hshare (blockVariable_eq_iff.mp h.symm)))
  case plain =>
    rintro hplain (halike | hreaches | hreaches)
    · exact halike
    · obtain ⟨htype, hname⟩ := hreaches.not_isAlphanum
      exact (hplain.elim (fun h => htype fun c hc => h c (List.mem_append_left _ hc))
        fun h => hname fun c hc => h c (List.mem_append_right _ hc)).elim
    · obtain ⟨htype, hname⟩ := hreaches.not_isAlphanum
      exact (hplain.elim (fun h => htype fun c hc => h c (List.mem_append_right _ hc))
        fun h => hname fun c hc => h c (List.mem_append_left _ hc)).elim

/-- Two spellings of one block, whose type has no separator: what is set for one is read for the other. -/
theorem consults_same_sampleBlock :
    (∀ c ∈ "secret".toList ++ "Secret".toList, c.isAlphanum = true) ∧
      Share "secret" "deploy-token" "Secret" "deploy token" ∧
      (∃ key, Consults "secret" "deploy-token" key ∧ Consults "Secret" "deploy token" key) ∧
      (ofEnvironment (bareEnvironment.overlay
          [(blockVariable "secret" "deploy-token", "x")])).toStore.readBlock "Secret" "deploy token" =
        .ok (document (Json.ofPayload "x")) ∧
      Variants "secret" "Secret" ∧ Variants "deploy-token" "deploy token" := by
  have hplain : ∀ c ∈ "secret".toList ++ "Secret".toList, c.isAlphanum = true :=
    List.all_eq_true.mp (by decide)
  have hshare : Share "secret" "deploy-token" "Secret" "deploy token" := by decide +kernel
  obtain ⟨hsame, hset, hvariants⟩ :=
    consults_same_iff "secret" "deploy-token" "Secret" "deploy token"
  have hread := hset bareEnvironment "x" ofEnvironment_bareEnvironment
  rw [if_pos hshare] at hread
  exact ⟨hplain, hshare, hsame.mpr hshare, hread, hvariants (.inl hplain) hshare⟩

/-- **A block of another type is read from the same variable** where a part of the name goes over to the
type. -/
theorem consults_same_other_type :
    ¬ ∀ type name otherType otherName key : String, type ≠ "" → name ≠ "" → otherType ≠ "" →
      otherName ≠ "" → Consults type name key → Consults otherType otherName key →
      Variants type otherType ∧ Variants name otherName := by
  intro h
  have hsame : blockVariable "secret" "deploy-token" = blockVariable "secret-deploy" "token" := by
    decide +kernel
  have hvariants := h "secret" "deploy-token" "secret-deploy" "token" _ (by decide) (by decide)
    (by decide) (by decide) (consults_iff.mpr rfl) (consults_iff.mpr hsame)
  revert hvariants
  decide +kernel

end EnvironmentStore

end Runbook
