import Mathlib.Data.List.TakeWhile
import Runbook.Proofs.FileTree
import Runbook.Proofs.Process
import Runbook.Proofs.Text.Octets
import Runbook.Steps.Clone

/-! # Where a repository is cloned to

A repository is cloned into a directory that has its name from the last part of the address. The name
holds no slash and no colon and is not empty, but it may be one that does not lead into the base
directory: a single dot stands for the base directory itself, and two dots for its parent. Both come about
from the last part as it is, or when that loses its suffix.

* **`ClonePlan.lastPartOf`** — the last part of an address.
* **`ClonePlan.dropSuffix_eq_iff`** — what loses its suffix, and what is left.
* **`ClonePlan.IsOrdinary`** — a name that leads into every directory.
* **`CloneStep.Asks`** — what a step asks of its host.
* **`CloneStep.WorksAt`** — the place in a file tree that a step clones into, pulls in and looks at.
* **`CloneStep.works_in_base_exactly`** — which addresses have an ordinary name, and at which place
  their repositories are cloned. -/

namespace Runbook

namespace ClonePlan

variable {repository name : String} {text rest : List Char} {c : Char} {fields : Fields}
  {plan : ClonePlan} {notices : List Diagnostic}

/-! ## Names of directories -/

/-- The last part of an address, without slashes at the end of the address. -/
def lastPartOf (repository : String) : List Char := lastPart (dropSlashes repository.toList)

/-- The suffix that the name of a directory does not have. -/
def suffix : List Char := ['.', 'g', 'i', 't']

theorem ne_of_mem_lastPartOf (h : c ∈ lastPartOf repository) : c ≠ '/' ∧ c ≠ ':' := by
  have hc := List.mem_takeWhile_imp (List.mem_reverse.mp h)
  simpa using hc

/-- A text with the suffix loses it. -/
theorem dropSuffix_append (text : List Char) : dropSuffix (text ++ suffix) = text := by
  rw [dropSuffix, List.reverse_append]
  exact List.reverse_reverse text

/-- A text without the suffix stays. -/
theorem dropSuffix_of_not_suffix (h : ¬ suffix <:+ text) : dropSuffix text = text := by
  rw [dropSuffix]
  split
  · rename_i rest hrest
    refine absurd ⟨rest.reverse, ?_⟩ h
    rw [← List.reverse_reverse text, hrest]
    simp [suffix]
  · rfl

/-- **What is left of a text** is the text in front of the suffix, or the whole if there is none. -/
theorem dropSuffix_eq_iff :
    dropSuffix text = rest ↔ text = rest ++ suffix ∨ (text = rest ∧ ¬ suffix <:+ rest) := by
  constructor
  · rintro rfl
    by_cases h : suffix <:+ text
    · obtain ⟨front, rfl⟩ := h
      exact .inl (by rw [dropSuffix_append])
    · rw [dropSuffix_of_not_suffix h]
      exact .inr ⟨rfl, h⟩
  · rintro (rfl | ⟨rfl, h⟩)
    · exact dropSuffix_append rest
    · exact dropSuffix_of_not_suffix h

/-- The name of a directory is what is left of the last part, if that is anything. -/
theorem directoryName_eq_ok_iff :
    directoryName repository = .ok name ↔ dropSuffix (lastPartOf repository) = name.toList ∧ name ≠ "" := by
  rw [directoryName, ← lastPartOf]
  split
  · rename_i hempty
    rw [List.isEmpty_iff] at hempty
    rw [hempty]
    refine ⟨nofun, ?_⟩
    rintro ⟨hname, hne⟩
    exact absurd (String.toList_eq_nil_iff.mp hname.symm) hne
  · rename_i hempty
    rw [List.isEmpty_iff] at hempty
    constructor
    · intro h
      cases h
      rw [String.toList_ofList]
      exact ⟨rfl, fun hne => hempty (String.ofList_eq_empty_iff.mp hne)⟩
    · rintro ⟨hname, -⟩
      rw [hname, String.ofList_toList]

/-- **A name that leads into every directory.** -/
structure IsOrdinary (name : String) : Prop where
  ne_empty : name ≠ ""
  slash_notMem : '/' ∉ name.toList
  colon_notMem : ':' ∉ name.toList
  ne_dot : name ≠ "."
  ne_dots : name ≠ ".."

/-- The last parts of which a name is left. -/
def partsOf (name : String) : List (List Char) := [name.toList, name.toList ++ suffix]

theorem eq_iff_mem_partsOf (h : directoryName repository = .ok name) {special : String}
    (hspecial : ¬ suffix <:+ special.toList) :
    name = special ↔ lastPartOf repository ∈ partsOf special := by
  rw [← String.toList_inj, ← (directoryName_eq_ok_iff.mp h).1, dropSuffix_eq_iff, partsOf,
    List.mem_cons, List.mem_singleton, or_comm, and_iff_left hspecial]

/-- **The name of a directory** is not empty and holds neither slashes nor colons. -/
theorem directoryName_chars (h : directoryName repository = .ok name) :
    name ≠ "" ∧ '/' ∉ name.toList ∧ ':' ∉ name.toList := by
  obtain ⟨hname, hne⟩ := directoryName_eq_ok_iff.mp h
  have hpart : ∀ c ∈ name.toList, c ≠ '/' ∧ c ≠ ':' := by
    intro c hc
    obtain hpart | ⟨hpart, -⟩ := dropSuffix_eq_iff.mp hname
    · exact ne_of_mem_lastPartOf (hpart ▸ List.mem_append_left suffix hc)
    · exact ne_of_mem_lastPartOf (hpart ▸ hc)
  exact ⟨hne, fun hc => (hpart _ hc).1 rfl, fun hc => (hpart _ hc).2 rfl⟩

theorem isOrdinary_iff (h : directoryName repository = .ok name) :
    IsOrdinary name ↔ lastPartOf repository ∉ partsOf "." ++ partsOf ".." := by
  obtain ⟨hne, hslash, hcolon⟩ := directoryName_chars h
  rw [List.mem_append, ← eq_iff_mem_partsOf h (by decide), ← eq_iff_mem_partsOf h (by decide), not_or]
  exact ⟨fun hname => ⟨hname.ne_dot, hname.ne_dots⟩, fun ⟨hdot, hdots⟩ =>
    ⟨hne, hslash, hcolon, hdot, hdots⟩⟩

/-- A plan is built only with a name for the directory, with or without credentials in the address. -/
theorem directoryName_of_build [DomainNames] {credentials? : Option Credentials}
    (h : build fields credentials? = .ok plan) :
    directoryName ((Decoding.text? fields "repository").getD "") = .ok plan.directory := by
  unfold build at h
  extract_lets repository url? at h
  clear_value url?
  split at h
  · cases h
  · split at h
    · cases h
    · rename_i hdirectory
      cases h
      exact hdirectory

/-- The directory of a plan has its name from the repository. -/
theorem directoryName_of_ofParameters [DomainNames]
    (h : ofParameters fields = (.ok plan, notices)) :
    directoryName ((Decoding.text? fields "repository").getD "") = .ok plan.directory := by
  rw [ofParameters] at h
  cases hcheck : schema.check fields with
  | error e =>
    rw [hcheck] at h
    cases h
  | ok _ =>
    rw [hcheck] at h
    cases hcredentials : credentialsOf fields with
    | mk credentials? raised =>
      rw [hcredentials] at h
      cases credentials? with
      | error e => cases h
      | ok credentials? => exact directoryName_of_build (congrArg Prod.fst h)

/-- The command that clones names the directory last. -/
theorem getLast?_cloneArguments (plan : ClonePlan) :
    plan.cloneArguments.getLast? = some plan.directory := by
  rw [cloneArguments, List.getLast?_append]
  rfl

end ClonePlan

/-! ## What a step asks of its host -/

namespace CloneStep

variable {ω : Type} (step : CloneStep) (host : Host ω) (plan : ClonePlan) (world : ω)

/-- What a step runs for a plan, which is the command to pull if there is a clone. -/
def chosenCommand : Command :=
  step.command plan (host.isDirectory (joinPath (step.checkout plan) ".git") world)

/-- What becomes of a program that has been captured. -/
def conclude (plan : ClonePlan) : Except Failure Captured → Except Failure Json
  | .error failure => .error failure
  | .ok captured =>
    if captured.succeeded then .ok (.object [("directory", .string plan.directory)])
    else .error (captured.failure "git_clone" (redact captured.stderr))

theorem run_eq : step.run host plan world =
    (conclude plan (host.capture (step.chosenCommand host plan world) false world).1,
      (host.capture (step.chosenCommand host plan world) false world).2) := by
  rw [run, ← chosenCommand]
  cases host.capture (step.chosenCommand host plan world) false world with
  | mk result after =>
    cases result with
    | error failure => rfl
    | ok captured =>
      dsimp only [conclude]
      split <;> rfl

/-- **What a step asks of its host for a plan.** If the directory of the clone has a directory `.git`, the
command runs there; otherwise it runs in the base directory and names the directory of the clone last.
What the step reports is this directory. -/
structure Asks : Prop where
  command : ∀ command ∈ (step.run host.recorded plan (world, [])).2.2,
    if host.isDirectory (joinPath (step.checkout plan) ".git") world then
      command.directory = some (step.checkout plan)
    else command.directory = step.base ∧ command.arguments.getLast? = some plan.directory
  output : ∀ output, (step.run host plan world).1 = .ok output →
    output = .object [("directory", .string plan.directory)]

theorem asks : step.Asks host plan world where
  command := by
    intro command hcommand
    have hchosen : step.chosenCommand host.recorded plan (world, []) =
      step.chosenCommand host plan world := rfl
    rw [run_eq, hchosen, Host.capture_recorded, List.nil_append, Command.handedOver] at hcommand
    split at hcommand
    · exact absurd hcommand List.not_mem_nil
    · rw [List.mem_singleton.mp hcommand, chosenCommand]
      split
      · rename_i hcloned
        rw [hcloned]
        rfl
      · rename_i hcloned
        rw [Bool.eq_false_iff.mpr hcloned]
        exact ⟨rfl, plan.getLast?_cloneArguments⟩
  output := by
    intro output houtput
    rw [run_eq] at houtput
    dsimp only [conclude] at houtput
    split at houtput
    · cases houtput
    · split at houtput
      · cases houtput
        rfl
      · cases houtput

end CloneStep

/-! ## Places in a file tree -/

namespace FileTree

/-- The place that the text of a path leads to from a directory. -/
def leadsTo (tree : FileTree) (here : Place) (path : String) : Except HostError Place :=
  tree.walk here (Octets.ofText path)

theorem leadsTo_empty (tree : FileTree) (here : Place) : tree.leadsTo here "" = .error .missing := by
  have hempty : Octets.ofText "" = "" := Octets.ofText_of_ascii (by simp)
  rw [leadsTo, hempty]
  rfl

end FileTree

namespace CloneStep

open FileTree (childOf)

variable {step : CloneStep} {plan : ClonePlan} {tree : FileTree} {here base : Place}
  {path entry : String}

theorem exists_of_endsWith_slash (h : path.endsWith "/" = true) : ∃ front, path = front ++ "/" := by
  rw [String.endsWith_eq_endsWith_toSlice, String.Slice.endsWith_string_iff,
    String.copy_toSlice] at h
  obtain ⟨front, hpath⟩ := h
  exact ⟨String.ofList front, String.toList_inj.mp (by simpa using hpath.symm)⟩

theorem joinPath_ne_empty (hne : path ≠ "") (entry : String) : joinPath path entry ≠ "" := by
  have hempty : path.isEmpty = false := by simpa using hne
  rw [joinPath, hempty, Bool.or_false]
  split_ifs with hstarts
  · rintro rfl
    cases hstarts
  · simp [hne]
  · simp [hne]

/-- **An entry of a directory** is found from the place that the directory's path leads to. -/
theorem leadsTo_joinPath (hne : path ≠ "") (hslash : '/' ∉ entry.toList) :
    tree.leadsTo here (joinPath path entry) =
      (tree.leadsTo here path).bind fun place => tree.follow place [Octets.ofText entry] := by
  have hstarts : entry.startsWith "/" = false := by
    rw [Bool.eq_false_iff, ne_eq, String.startsWith_string_iff]
    exact fun hbegins => hslash (hbegins.subset List.mem_cons_self)
  have hempty : path.isEmpty = false := by simpa using hne
  have hpieces : FileTree.pieces (Octets.ofText entry) = [Octets.ofText entry] :=
    FileTree.pieces_of_slash_notMem (Octets.slash_mem_ofText_iff.not.mpr hslash)
  rw [joinPath, hstarts, hempty, Bool.or_false, if_neg Bool.false_ne_true]
  split
  -- A slash at the end of the path is not doubled, and what stands in front of it is a directory anyway.
  · rename_i hends
    obtain ⟨front, rfl⟩ := exists_of_endsWith_slash hends
    rw [FileTree.leadsTo, Octets.ofText_joined, FileTree.walk_slash_append, hpieces, FileTree.leadsTo,
      Octets.ofText_append, Octets.ofText_slash]
  · rw [FileTree.leadsTo, Octets.ofText_joined, FileTree.walk_append (Octets.ofText_ne_empty hne),
      hpieces, FileTree.leadsTo]

/-- **The directory that holds the clones** of a step that runs in the directory `here`. -/
structure IsBase (step : CloneStep) (tree : FileTree) (here base : Place) : Prop where
  leads : (step.base.elim (.ok here) (tree.leadsTo here)) = .ok base
  directory : tree.node? base = some .directory

/-- **The place that a step uses for a plan** when it runs in the directory `here`: the directory of the
clone leads there, a program that runs in the base directory finds it by the name that it is given, and
what is looked for to tell an earlier clone is an entry there. There are no symbolic links in a file
tree, so these are the places on machines without them. -/
structure WorksAt (step : CloneStep) (plan : ClonePlan) (tree : FileTree) (here base : Place)
    (spot : Except HostError Place) : Prop where
  pulled : tree.leadsTo here (step.checkout plan) = spot
  cloned : tree.leadsTo base plan.directory = spot
  inspected : tree.leadsTo here (joinPath (step.checkout plan) ".git") =
    spot.bind fun place => tree.follow place [".git"]

/-- **A step uses the place that the name of the directory leads to** from the base directory. -/
theorem worksAt_childOf (hbase : step.IsBase tree here base) (hne : plan.directory ≠ "")
    (hslash : '/' ∉ plan.directory.toList) :
    step.WorksAt plan tree here base (childOf base (Octets.ofText plan.directory)) := by
  have hcloned : tree.leadsTo base plan.directory = childOf base (Octets.ofText plan.directory) :=
    FileTree.walk_of_slash_notMem hbase.directory (Octets.ofText_ne_empty hne)
      (Octets.slash_mem_ofText_iff.not.mpr hslash)
  have hcheckout : step.checkout plan ≠ "" ∧
      tree.leadsTo here (step.checkout plan) = childOf base (Octets.ofText plan.directory) := by
    -- Without a base directory of its own a step works in the working directory.
    have hleads := hbase.leads
    rw [checkout]
    cases hpath : step.base with
    | none =>
      rw [hpath] at hleads
      cases hleads
      exact ⟨hne, hcloned⟩
    | some path =>
      rw [hpath] at hleads
      have hpathNe : path ≠ "" := by
        rintro rfl
        exact absurd hleads (by rw [Option.elim_some, FileTree.leadsTo_empty]; exact nofun)
      refine ⟨joinPath_ne_empty hpathNe _, ?_⟩
      rw [leadsTo_joinPath hpathNe hslash, show tree.leadsTo here path = .ok base from hleads]
      exact FileTree.follow_singleton hbase.directory _
  have hgit : Octets.ofText ".git" = ".git" := Octets.ofText_of_ascii (by simp)
  refine ⟨hcheckout.2, hcloned, ?_⟩
  rw [leadsTo_joinPath hcheckout.1 (by simp), hcheckout.2, hgit]

/-- Where the repository of an address is cloned to, given the name of the directory. -/
def spotOf (repository name : String) (base : Place) : Except HostError Place :=
  if ClonePlan.lastPartOf repository ∈ ClonePlan.partsOf "." then .ok base
  else if ClonePlan.lastPartOf repository ∈ ClonePlan.partsOf ".." then .ok base.dropLast
  else if FileTree.nameLimit < (Octets.ofText name).length then .error .nameTooLong
  else .ok (base ++ [Octets.ofText name])

theorem childOf_eq_spotOf {repository name : String}
    (h : ClonePlan.directoryName repository = .ok name) :
    childOf base (Octets.ofText name) = spotOf repository name base := by
  have hempty : ¬ Octets.ofText name = "" := Octets.ofText_ne_empty (ClonePlan.directoryName_chars h).1
  have hdot : Octets.ofText name = "." ↔
      ClonePlan.lastPartOf repository ∈ ClonePlan.partsOf "." :=
    (Octets.ofText_eq_iff (by simp)).trans (ClonePlan.eq_iff_mem_partsOf h (by decide))
  have hdots : Octets.ofText name = ".." ↔
      ClonePlan.lastPartOf repository ∈ ClonePlan.partsOf ".." :=
    (Octets.ofText_eq_iff (by simp)).trans (ClonePlan.eq_iff_mem_partsOf h (by decide))
  simp only [childOf, spotOf, hempty, false_or, hdot, hdots]

/-- **The directory of a clone, exactly.** The name that an address gives is not empty and holds neither
slashes nor colons. It leads into every directory unless the last part of the address is one or two dots,
with or without the suffix. A step whose parameters give the address asks for nothing but this directory
and reports it; in every file tree it clones into, pulls in and looks at a child of the base directory,
or the base directory itself for one dot, or its parent for two. -/
theorem works_in_base_exactly {repository name : String}
    (h : ClonePlan.directoryName repository = .ok name) :
    (name ≠ "" ∧ '/' ∉ name.toList ∧ ':' ∉ name.toList) ∧
    (ClonePlan.IsOrdinary name ↔
      ClonePlan.lastPartOf repository ∉ ClonePlan.partsOf "." ++ ClonePlan.partsOf "..") ∧
    ∀ [DomainNames] (fields : Fields) (plan : ClonePlan) (notices : List Diagnostic),
      Decoding.text? fields "repository" = some repository →
      ClonePlan.ofParameters fields = (.ok plan, notices) →
      plan.directory = name ∧
      ∀ step : CloneStep,
        (∀ (ω : Type) (host : Host ω) (world : ω), step.Asks host plan world) ∧
        ∀ (tree : FileTree) (here base : Place), step.IsBase tree here base →
          step.WorksAt plan tree here base (spotOf repository name base) := by
  refine ⟨ClonePlan.directoryName_chars h, ClonePlan.isOrdinary_iff h, ?_⟩
  intro names fields plan notices hrepository hplan
  have hdirectory : plan.directory = name := by
    have hbuilt := ClonePlan.directoryName_of_ofParameters hplan
    rw [hrepository, Option.getD_some, h] at hbuilt
    cases hbuilt
    rfl
  refine ⟨hdirectory, fun step => ⟨fun _ host world => step.asks host plan world, ?_⟩⟩
  intro tree here base hbase
  obtain ⟨hne, hslash, -⟩ := ClonePlan.directoryName_chars h
  subst hdirectory
  rw [← childOf_eq_spotOf h]
  exact worksAt_childOf hbase hne hslash

section

attribute [local instance] DomainNames.ascii

/-- A tree of two directories, one in the other. -/
def sampleTree : FileTree := ⟨[(["usr"], .directory), (["usr", "local"], .directory)]⟩

/-- With two dots in front of the suffix, a repository is cloned over the parent of the base directory. -/
theorem works_in_parent :
    ∃ plan : ClonePlan,
      ClonePlan.ofParameters [("repository", .string "https://host/...git")] = (.ok plan, []) ∧
      CloneStep.WorksAt ⟨"git", some "/usr/local"⟩ plan sampleTree [] ["usr", "local"]
        (.ok ["usr"]) := by
  have hname : ClonePlan.directoryName "https://host/...git" = .ok ".." := by decide +kernel
  obtain ⟨-, -, hworks⟩ := works_in_base_exactly hname
  have hplan : ClonePlan.ofParameters [("repository", .string "https://host/...git")] =
      (.ok ⟨"https://host/...git", none, false, ".."⟩, []) := by decide +kernel
  refine ⟨_, hplan, ?_⟩
  obtain ⟨-, hstep⟩ := hworks _ _ _ rfl hplan
  have hbase : CloneStep.IsBase ⟨"git", some "/usr/local"⟩ sampleTree [] ["usr", "local"] :=
    ⟨by decide +kernel, by decide +kernel⟩
  exact (hstep _).2 _ _ _ hbase

end

end CloneStep

/-- The names that addresses give are not all ordinary ones. -/
theorem ClonePlan.directoryName_not_ordinary :
    ¬ ∀ repository name : String, directoryName repository = .ok name → IsOrdinary name := by
  intro h
  have hdots : directoryName ".." = .ok ".." := by decide +kernel
  exact (h ".." ".." hdots).ne_dots rfl

end Runbook
