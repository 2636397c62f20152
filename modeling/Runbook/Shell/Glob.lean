import Runbook.FileTree
import Runbook.Shell.Pattern

/-! # Names of files that match a word

A word that holds characters of patterns stands for the paths that it matches, if there are any. Each
component of a path is matched by itself.

* **`Pattern.paths`** — the paths that a word matches.
* **`Pattern.expand`** — the words that a word stands for. -/

namespace Runbook.Shell.Pattern

/-- Whether brackets close behind an opening one before a slash, so that they may stand for a
character. -/
def closes : (fuel : Nat) → Pattern → Bool
  | 0, _ => false
  | _ + 1, [] => false
  | fuel + 1, (c, _) :: rest =>
    if c == '/' then false
    else
      match rest with
      | [] => false
      | next :: rest => isBare ']' next || closes fuel (next :: rest)

/-- Whether the character that a pattern begins with makes it stand for something else. -/
def isActiveAt (pattern : Pattern) : Bool :=
  match pattern with
  | first :: rest =>
    isBare '*' first || isBare '?' first
      || (isBare '[' first && closes rest.length (match rest with
          | next :: rest => if isBare '!' next then rest else next :: rest
          | [] => []))
  | [] => false

/-- Whether some character of a component of a path makes it stand for something else. -/
def isActive : Pattern → Bool
  | [] => false
  | first :: rest => isActiveAt (first :: rest) || (first.1 != '/' && isActive rest)

/-- The components of a path, each with whether a slash follows it. -/
def components (pattern : Pattern) : List (Pattern × Bool) :=
  let pieces := pattern.splitOnP fun (c, _) => c == '/'
  pieces.zipIdx.map fun (piece, index) => (piece, index + 1 < pieces.length)

/-- The names in a directory that a component matches. Names that begin with a dot must be asked
for. -/
def namesIn (tree : FileTree) (place : Place) (component : Pattern) : List String :=
  let dotted := (component.text.head?) == some '.'
  ((".":: ".." :: tree.names place).filter fun name =>
    (dotted || !name.startsWith ".") && component.accepts name.toList)

/-- Whether something stands at the end of a path. -/
def stands (tree : FileTree) (base : Place) (path : String) : Bool :=
  match tree.find base path with
  | .ok _ => true
  | .error _ => false

/-- The paths that components match behind a path that is there. -/
def pathsFrom (tree : FileTree) (base : Place) : (before : String) → List (Pattern × Bool) →
    List String
  | before, [] => if stands tree base before then [before] else []
  | before, (component, more) :: rest =>
    let slash := if more then "/" else ""
    if isActive component then
      match tree.directory base (if before.isEmpty then "." else before) with
      | .error _ => []
      | .ok place =>
        (namesIn tree place component).flatMap fun name =>
          pathsFrom tree base (before ++ name ++ slash) rest
    else pathsFrom tree base (before ++ String.ofList component.text ++ slash) rest

/-- The paths that a word matches, in order. -/
def paths (tree : FileTree) (base : Place) (word : Pattern) : List String :=
  let word := word.resolve
  let pieces := components word
  if pieces.any fun piece => isActive piece.1 then (pathsFrom tree base "" pieces).mergeSort
  else []

/-- Whether a character could make a word stand for something else. -/
def isMeta (entry : Char × Bool) : Bool :=
  isBare '*' entry || isBare '?' entry || isBare '[' entry

/-- The words that a word stands for: the paths that it matches, or else itself. -/
def expand (tree : FileTree) (base : Place) (word : Pattern) : List String :=
  match if word.any isMeta then paths tree base word else [] with
  | [] => [String.ofList word.text]
  | found => found

end Runbook.Shell.Pattern
