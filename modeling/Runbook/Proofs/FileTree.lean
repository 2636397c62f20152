import Mathlib.Tactic.SplitIfs
import Runbook.FileTree

/-! # Paths in file trees

A path is followed piece by piece. A path that goes on behind a slash is followed on from the place that
its beginning leads to.

* **`FileTree.follow_append`** — pieces are followed one after another.
* **`FileTree.walk_append`**, **`FileTree.walk_slash_append`** — a path that goes on behind a slash.
* **`FileTree.walk_of_slash_notMem`** — a path that is one piece. -/

namespace Runbook.FileTree

variable {tree : FileTree} {base place : Place} {path rest piece : String}

/-- **Pieces are followed one after another.** -/
theorem follow_append (tree : FileTree) (place : Place) (front back : List String) :
    tree.follow place (front ++ back) =
      (tree.follow place front).bind fun reached => tree.follow reached back := by
  induction front generalizing place with
  | nil => rfl
  | cons piece front ih =>
    simp only [List.cons_append, follow]
    split
    · rfl
    · simp only [ih]
      split_ifs <;> rfl
    · rfl

/-- The place that one more piece leads to from a directory. -/
def childOf (place : Place) (piece : String) : Except HostError Place :=
  if piece = "" ∨ piece = "." then .ok place
  else if piece = ".." then .ok place.dropLast
  else if nameLimit < piece.length then .error .nameTooLong
  else .ok (place ++ [piece])

theorem follow_singleton (h : tree.node? place = some .directory) (piece : String) :
    tree.follow place [piece] = childOf place piece := by
  simp only [follow, h, childOf]

/-- No piece is followed from a place that is no directory. -/
theorem exists_follow_error (h : tree.node? place ≠ some .directory) :
    ∃ error, ∀ piece rest, tree.follow place (piece :: rest) = .error error := by
  cases hnode : tree.node? place with
  | none => exact ⟨.missing, fun piece rest => by simp only [follow, hnode]⟩
  | some node =>
    cases node with
    | directory => exact absurd hnode h
    | file _ _ => exact ⟨.notDirectory, fun piece rest => by simp only [follow, hnode]⟩
    | program _ => exact ⟨.notDirectory, fun piece rest => by simp only [follow, hnode]⟩
    | device _ => exact ⟨.notDirectory, fun piece rest => by simp only [follow, hnode]⟩

theorem pieces_append (path rest : String) : pieces (path ++ "/" ++ rest) = pieces path ++ pieces rest := by
  have hpath : (path ++ "/" ++ rest).toList = path.toList ++ '/' :: rest.toList := by simp
  have hslash : ('/' == '/') = true := rfl
  rw [pieces, hpath, List.splitOnP_append_cons (p := (· == '/')) _ _ hslash, List.map_append, pieces,
    pieces]

theorem pieces_ne_nil (path : String) : pieces path ≠ [] := by
  rw [pieces, ne_eq, List.map_eq_nil_iff]
  exact List.splitOnP_ne_nil _ _

/-- A path without slashes is one piece. -/
theorem pieces_of_slash_notMem (h : '/' ∉ path.toList) : pieces path = [path] := by
  have hplain : ∀ c ∈ path.toList, (c == '/') = false := fun c hc =>
    beq_eq_false_iff_ne.mpr fun heq => h (heq ▸ hc)
  rw [pieces, List.splitOnP_eq_singleton hplain, List.map_singleton, String.ofList_toList]

/-- Where a path is followed from. -/
def startOf (base : Place) (path : String) : Place := if path.startsWith "/" then [] else base

theorem walk_eq (hne : path ≠ "") : tree.walk base path = tree.follow (startOf base path) (pieces path) := by
  have hempty : path.isEmpty = false := by simpa using hne
  rw [walk, hempty, if_neg Bool.false_ne_true, startOf]
  split <;> rfl

/-- A path is followed from the same place however it goes on. -/
theorem startOf_append (hne : path ≠ "") (rest : String) :
    startOf base (path ++ rest) = startOf base path := by
  have hstarts : (path ++ rest).startsWith "/" = path.startsWith "/" := by
    rw [Bool.eq_iff_iff, String.startsWith_string_iff, String.startsWith_string_iff,
      String.toList_append]
    cases hpath : path.toList with
    | nil => exact absurd (String.toList_eq_nil_iff.mp hpath) hne
    | cons c text => simp
  rw [startOf, hstarts, startOf]

/-- **A path that goes on behind a slash** is walked on from the place that its beginning leads to. -/
theorem walk_append (hne : path ≠ "") (rest : String) :
    tree.walk base (path ++ "/" ++ rest) =
      (tree.walk base path).bind fun reached => tree.follow reached (pieces rest) := by
  have hjoined : path ++ "/" ++ rest ≠ "" := by simp [hne]
  rw [walk_eq hjoined, walk_eq hne, pieces_append, follow_append, String.append_assoc,
    startOf_append hne]

/-- The same for a path whose beginning is taken with the slash: whatever follows the slash, what stands
in front of it must be a directory. -/
theorem walk_slash_append (path rest : String) :
    tree.walk base (path ++ "/" ++ rest) =
      (tree.walk base (path ++ "/")).bind fun reached => tree.follow reached (pieces rest) := by
  have hslash : path ++ "/" ≠ "" := by simp
  have hpieces : pieces (path ++ "/") = pieces path ++ [""] := by
    have happend := pieces_append path ""
    rwa [String.append_empty, show pieces "" = [""] from rfl] at happend
  have hjoined : path ++ "/" ++ rest ≠ "" := by simp
  obtain ⟨piece, others, hrest⟩ := List.exists_cons_of_ne_nil (pieces_ne_nil rest)
  rw [walk_eq hslash, hpieces, follow_append, walk_eq hjoined, startOf_append hslash, pieces_append,
    follow_append]
  cases tree.follow (startOf base (path ++ "/")) (pieces path) with
  | error error => rfl
  | ok reached =>
    change tree.follow reached (pieces rest) =
      (tree.follow reached [""]).bind fun reached => tree.follow reached (pieces rest)
    by_cases hnode : tree.node? reached = some .directory
    · rw [follow_singleton hnode]
      rfl
    · obtain ⟨error, herror⟩ := exists_follow_error hnode
      rw [hrest, herror, herror]
      rfl

/-- A path that is one piece leads from a directory to a child of it, or to the directory itself or its
parent. -/
theorem walk_of_slash_notMem (hbase : tree.node? base = some .directory) (hne : path ≠ "")
    (hslash : '/' ∉ path.toList) : tree.walk base path = childOf base path := by
  have hstarts : path.startsWith "/" = false := by
    rw [Bool.eq_false_iff, ne_eq, String.startsWith_string_iff]
    exact fun hbegins => hslash (hbegins.subset List.mem_cons_self)
  rw [walk_eq hne, startOf, hstarts, if_neg Bool.false_ne_true, pieces_of_slash_notMem hslash,
    follow_singleton hbase]

end Runbook.FileTree
