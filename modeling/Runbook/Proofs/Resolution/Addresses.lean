import Mathlib.Data.List.Infix
import Runbook.Proofs.Reference.Path
import Runbook.Proofs.Template.Rendering
import Runbook.Resolution
import Runbook.Store.Table

/-! # Every output has an address

A path can be written with each of its segments in brackets. Between brackets a segment means
nothing but itself, even if it looks like a store, a dollar name, a dotted path or a placeholder.

* **`Path.Enclosable`** — a text that may stand between brackets; a **`Path.Bracketable`** one may also
  stand in a placeholder with them.
* **`Path.parse?_bracketed`** — a path that was written in brackets is found again.
* **`Reference.parse?_enclosed`** — it refers to an output, whatever its segments look like.
* **`Resolution.value_address`** — the placeholder of such a path stands for the very value that the
  outputs have there. -/

namespace Runbook

/-! ## Paths in brackets -/

namespace Path

/-- **A text that may stand between the brackets of a path.** -/
structure Enclosable (segment : String) : Prop where
  ne_empty : segment ≠ ""
  isTrimmed : Text.IsTrimmed segment.toList
  bracket_notMem : ']' ∉ segment.toList

instance : DecidablePred Enclosable := fun segment =>
  decidable_of_iff (segment ≠ "" ∧ Text.IsTrimmed segment.toList ∧ ']' ∉ segment.toList)
    ⟨fun h => ⟨h.1, h.2.1, h.2.2⟩, fun h => ⟨h.1, h.2, h.3⟩⟩

/-- **A text that may stand between the brackets of a path** and, with them, in a placeholder. -/
structure Bracketable (segment : String) : Prop extends Enclosable segment where
  closing_not_infix : ¬ ['}', '}'] <:+: segment.toList

instance : DecidablePred Bracketable := fun segment =>
  decidable_of_iff (Enclosable segment ∧ ¬ ['}', '}'] <:+: segment.toList)
    ⟨fun h => ⟨h.1, h.2⟩, fun h => ⟨h.toEnclosable, h.closing_not_infix⟩⟩

/-- **A path as it is written in brackets**: `[clone][directory]`. -/
def bracketed (path : List String) : List Char :=
  path.flatMap fun segment => '[' :: (segment.toList ++ [']'])

theorem bracketed_cons (segment : String) (rest : List String) :
    bracketed (segment :: rest) = '[' :: (segment.toList ++ ']' :: bracketed rest) := by
  simp [bracketed]

/-- A bracket around a text that may stand there gives this text, and the path goes on behind it. -/
theorem segments?_of_enclosable {segment : String} (h : Enclosable segment) (closed : Bool)
    (rest : List Char) :
    segments? [] closed ('[' :: (segment.toList ++ ']' :: rest)) =
      (segments? [] true rest).map (segment.toList :: ·) := by
  have hne : segment.toList ≠ [] := fun hnil => h.ne_empty (String.toList_eq_nil_iff.mp hnil)
  have htrim : Text.trim segment.toList = segment.toList := Text.trim_eq_self h.isTrimmed
  rw [segments?_bracket h.bracket_notMem, htrim, if_neg hne]

/-- Brackets are read one after another, as long as at least one is there. -/
theorem segments?_bracketed {path : List String} (h : ∀ segment ∈ path, Enclosable segment)
    {closed : Bool} (hclosed : path = [] → closed = true) :
    segments? [] closed (bracketed path) = some (path.map String.toList) := by
  induction path generalizing closed with
  | nil =>
    rw [hclosed rfl]
    rfl
  | cons segment rest ih =>
    obtain ⟨hsegment, hrest⟩ := List.forall_mem_cons.mp h
    calc segments? [] closed (bracketed (segment :: rest))
        = (segments? [] true (bracketed rest)).map (segment.toList :: ·) := by
          rw [bracketed_cons, segments?_of_enclosable hsegment]
      _ = some ((segment :: rest).map String.toList) := by
          rw [ih hrest fun _ => rfl, Option.map_some, List.map_cons]

/-- **A path that was written in brackets is found again**: nothing in a segment splits it. -/
theorem parse?_bracketed {path : List String} (hne : path ≠ [])
    (h : ∀ segment ∈ path, Enclosable segment) : parse? (bracketed path) = some path := by
  rw [parse?, segments?_bracketed h fun hnil => absurd hnil hne, Option.map_some, List.map_map]
  have hback : String.ofList ∘ String.toList = id := by
    funext segment
    exact String.ofList_toList
  rw [hback, List.map_id]

/-! ## Paths in brackets as expressions -/

theorem closing_not_infix_bracketed {path : List String}
    (h : ∀ segment ∈ path, Bracketable segment) : ¬ ['}', '}'] <:+: bracketed path := by
  induction path with
  | nil => decide
  | cons segment rest ih =>
    obtain ⟨hsegment, hrest⟩ := List.forall_mem_cons.mp h
    have hbehind : ¬ ['}', '}'] <:+: segment.toList ++ ']' :: bracketed rest :=
      Template.closing_not_infix_append (by decide) hsegment.closing_not_infix (ih hrest)
    rw [bracketed_cons, List.infix_cons_iff, Template.closing_prefix_cons_iff]
    rintro (⟨hbrace, -⟩ | hwithin)
    · exact absurd hbrace (by decide)
    · exact hbehind hwithin

theorem bracketed_ne_nil {path : List String} (hne : path ≠ []) : bracketed path ≠ [] := by
  cases path with
  | nil => exact absurd rfl hne
  | cons segment rest =>
    rw [bracketed_cons]
    exact List.cons_ne_nil _ _

/-- Brackets are no blanks. -/
theorem isTrimmed_bracketed (path : List String) : Text.IsTrimmed (bracketed path) := by
  constructor
  · cases path with
    | nil => exact fun c hc => absurd hc (by simp [bracketed])
    | cons segment rest =>
      rw [bracketed_cons]
      intro c hc
      rw [← Option.some.inj hc]
      decide
  · rcases List.eq_nil_or_concat path with rfl | ⟨front, last, rfl⟩
    · exact fun c hc => absurd hc (by simp [bracketed])
    · have hend : bracketed (front.concat last) =
          bracketed front ++ '[' :: last.toList ++ [']'] := by
        simp [bracketed]
      rw [hend, List.getLast?_concat]
      intro c hc
      rw [← Option.some.inj hc]
      decide

/-- **A path in brackets may be the expression of a placeholder.** -/
theorem wellFormed_bracketed {path : List String} (hne : path ≠ [])
    (h : ∀ segment ∈ path, Bracketable segment) :
    (Segment.placeholder (bracketed path)).WellFormed :=
  ⟨bracketed_ne_nil hne, isTrimmed_bracketed path, closing_not_infix_bracketed h⟩

/-- The text of the placeholder for a path in brackets. -/
def address (path : List String) : String :=
  "\x7b\x7b " ++ String.ofList (bracketed path) ++ " \x7d\x7d"

theorem toList_address (path : List String) :
    (address path).toList = Template.renderPiece (.placeholder (bracketed path)) := by
  simp [address, Template.renderPiece]

end Path

/-- **A path in brackets refers to an output**: it has the opening of no other namespace, whatever
its segments look like. -/
theorem Reference.parse?_enclosed {path : List String} (hne : path ≠ [])
    (h : ∀ segment ∈ path, Path.Enclosable segment) :
    parse? (Path.bracketed path) = some (.output path) := by
  have htrim : Text.trim (Path.bracketed path) = Path.bracketed path :=
    Text.trim_eq_self (Path.isTrimmed_bracketed path)
  have hpath := Path.parse?_bracketed hne h
  cases path with
  | nil => exact absurd rfl hne
  | cons segment rest =>
    rw [parse?, htrim]
    rw [Path.bracketed_cons] at hpath ⊢
    simp only [blockOpening, variableOpening, afterOpening?]
    simp [hpath]

/-- The path of a placeholder is one of them. -/
theorem Reference.parse?_bracketed {path : List String} (hne : path ≠ [])
    (h : ∀ segment ∈ path, Path.Bracketable segment) :
    parse? (Path.bracketed path) = some (.output path) :=
  parse?_enclosed hne fun segment hsegment => (h segment hsegment).toEnclosable

namespace Resolution

/-- **Every output has an address.** A path whose segments may stand in brackets, written so in a
placeholder, is scanned as this one placeholder and refers to an output, even if a segment looks
like a store, a dollar name, a dotted path or an opening. Its value is the very tree that the
outputs have there, of whatever type, and braces or backslashes in it are not looked at again; where
the outputs have none, the error names the path. Neither the environment nor the store has a say in
it. -/
theorem value_address (path : List String) (hne : path ≠ [])
    (h : ∀ segment ∈ path, Path.Bracketable segment) :
    Template.segments (Path.address path).toList = [.placeholder (Path.bracketed path)] ∧
      Reference.parse? (Path.bracketed path) = some (.output path) ∧
      ∀ sources : Sources, value sources (.string (Path.address path)) =
        match sources.outputs.lookup path with
        | some found => .ok found
        | none => .error (.unresolved (String.ofList (Path.bracketed path))) := by
  have hsegments : Template.segments (Path.address path).toList =
      [.placeholder (Path.bracketed path)] := by
    have hfound := Template.segments_placeholder (Path.wellFormed_bracketed hne h) []
    rwa [List.append_nil, ← Path.toList_address] at hfound
  have hreference := Reference.parse?_bracketed hne h
  refine ⟨hsegments, hreference, fun sources => ?_⟩
  rw [value, string, hsegments]
  cases hlookup : sources.outputs.lookup path with
  | none => simp only [expression, hreference, reference, hlookup]
  | some found => simp only [expression, hreference, reference, hlookup]

/-- A path with a segment for each of the other meanings that a text could have. -/
def samplePath : List String := ["store", "$HOME", "a.b", "\x7b\x7bx"]

/-- Sources with a text at that path that looks like a template. -/
def sampleSources : Sources where
  outputs := Outputs.empty.record (some "store")
    (.object [("$HOME", .object [("a.b", .object
      [("\x7b\x7bx", .string "\\\x7b\x7b y \x7d\x7d")])])])
  environment := .ofList [("HOME", "/root")]
  store := TableStore.empty.toStore

/-- The text is found, and it is not taken for a template. -/
theorem value_address_samplePath :
    (samplePath ≠ [] ∧ ∀ segment ∈ samplePath, Path.Bracketable segment) ∧
      Path.address samplePath = "\x7b\x7b [store][$HOME][a.b][\x7b\x7bx] \x7d\x7d" ∧
      value sampleSources (.string (Path.address samplePath)) =
        .ok (.string "\\\x7b\x7b y \x7d\x7d") := by
  have hne : samplePath ≠ [] := List.cons_ne_nil _ _
  have hbracketable : ∀ segment ∈ samplePath, Path.Bracketable segment := by decide +kernel
  obtain ⟨-, -, hvalue⟩ := value_address samplePath hne hbracketable
  exact ⟨⟨hne, hbracketable⟩, by decide +kernel, (hvalue sampleSources).trans rfl⟩

end Resolution

end Runbook
