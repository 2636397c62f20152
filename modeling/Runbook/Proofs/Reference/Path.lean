import Mathlib.Tactic.SplitIfs
import Runbook.Reference.Path

/-! # Paths that are read

The reader of paths goes through a text character by character, outside and inside brackets in turn.

* **`Path.segments?_cons`**, **`Path.bracket?_cons`** — what one character does.
* **`Path.segments?_bracket`** — what a bracket does that is closed.
* **`Path.shape_of_segments?`** — no segment is empty, and there is one wherever one is wanted.
* **`Path.shape_of_parse?`** — so a path that is read has segments, and none of them is empty. -/

namespace Runbook.Path

/-- **One character outside brackets**: a dot or an opening bracket ends the word before it, and every
other character belongs to a word. -/
theorem segments?_cons (word : List Char) (closed : Bool) (c : Char) (rest : List Char) :
    segments? word closed (c :: rest) =
      if c = '.' then
        if word = [] then (if closed then segments? [] false rest else none)
        else (segments? [] false rest).map (word.reverse :: ·)
      else if c = '[' then
        if word = [] then bracket? [] rest else (bracket? [] rest).map (word.reverse :: ·)
      else segments? (c :: word) false rest := by
  by_cases hdot : c = '.'
  · subst hdot
    simp only [segments?, List.isEmpty_iff, if_pos]
  · by_cases hbracket : c = '['
    · subst hbracket
      simp only [segments?, List.isEmpty_iff, if_neg hdot, if_pos]
    · rw [if_neg hdot, if_neg hbracket, segments?]
      · exact hdot
      · exact hbracket

/-- **One character inside brackets**: a closing bracket ends the segment, which must not be blank. -/
theorem bracket?_cons (inner : List Char) (c : Char) (rest : List Char) :
    bracket? inner (c :: rest) =
      if c = ']' then
        if Text.trim inner.reverse = [] then none
        else (segments? [] true rest).map (Text.trim inner.reverse :: ·)
      else bracket? (c :: inner) rest := by
  by_cases hbracket : c = ']'
  · subst hbracket
    simp only [bracket?, List.isEmpty_iff, if_pos]
  · rw [if_neg hbracket, bracket?]
    exact hbracket

/-- Inside a bracket every character but the closing one is collected. -/
theorem bracket?_append {inner : List Char} (h : ']' ∉ inner) (before rest : List Char) :
    bracket? before (inner ++ rest) = bracket? (inner.reverse ++ before) rest := by
  induction inner generalizing before with
  | nil => rfl
  | cons c inner ih =>
    rw [List.mem_cons, not_or] at h
    obtain ⟨hc, hinner⟩ := h
    rw [List.cons_append, bracket?, ih hinner, List.reverse_cons, List.append_assoc]
    · rfl
    · exact fun hbracket => hc hbracket.symm

/-- Brackets are read as one segment, which is trimmed, unless there are only blanks between them. -/
theorem segments?_bracket {inner : List Char} (h : ']' ∉ inner) (closed : Bool) (rest : List Char) :
    segments? [] closed ('[' :: (inner ++ ']' :: rest)) =
      if Text.trim inner = [] then none
      else (segments? [] true rest).map (Text.trim inner :: ·) := by
  rw [segments?_cons, if_neg (by decide), if_pos rfl, if_pos rfl, bracket?_append h,
    bracket?_cons, if_pos rfl, List.append_nil, List.reverse_reverse]

/-- Segments of which none is empty. -/
def Filled (segments : List (List Char)) : Prop := ∀ segment ∈ segments, segment ≠ []

/-- A segment that is not empty may come in front. -/
theorem filled_of_map_cons {segment : List Char} {found : Option (List (List Char))}
    {segments : List (List Char)} (hne : segment ≠ [])
    (hfound : ∀ others, found = some others → Filled others)
    (h : found.map (segment :: ·) = some segments) : Filled segments ∧ segments ≠ [] := by
  obtain ⟨others, hothers, rfl⟩ := Option.map_eq_some_iff.mp h
  exact ⟨List.forall_mem_cons.mpr ⟨hne, hfound others hothers⟩, List.cons_ne_nil _ _⟩

/-- **Neither words nor brackets give an empty segment**, and there is a segment wherever one is
wanted: outside brackets behind a word or a dot, and inside brackets always. -/
theorem shape_of_segments? (text : List Char) :
    (∀ word closed segments, segments? word closed text = some segments →
      Filled segments ∧ (word ≠ [] ∨ closed = false → segments ≠ [])) ∧
    ∀ inner segments, bracket? inner text = some segments → Filled segments ∧ segments ≠ [] := by
  induction text with
  | nil =>
    refine ⟨fun word closed segments h => ?_, fun inner segments h => by cases h⟩
    rw [segments?] at h
    by_cases hword : word = []
    · subst hword
      cases closed with
      | false => cases h
      | true =>
        cases h
        exact ⟨fun segment hsegment => absurd hsegment List.not_mem_nil, by simp⟩
    · rw [if_neg (by simpa using hword)] at h
      cases h
      have hne : word.reverse ≠ [] := by simpa using hword
      exact ⟨List.forall_mem_singleton.mpr hne, fun _ => List.cons_ne_nil _ _⟩
  | cons c rest ih =>
    obtain ⟨ihOutside, ihInside⟩ := ih
    constructor
    · intro word closed segments h
      rw [segments?_cons] at h
      split_ifs at h with hdot hnil hclosed hbracket hnil
      · obtain ⟨hfilled, hne⟩ := ihOutside [] false segments h
        exact ⟨hfilled, fun _ => hne (Or.inr rfl)⟩
      · obtain ⟨hfilled, hne⟩ := filled_of_map_cons (by simpa using hnil)
          (fun others hothers => (ihOutside [] false others hothers).1) h
        exact ⟨hfilled, fun _ => hne⟩
      · obtain ⟨hfilled, hne⟩ := ihInside [] segments h
        exact ⟨hfilled, fun _ => hne⟩
      · obtain ⟨hfilled, hne⟩ := filled_of_map_cons (by simpa using hnil)
          (fun others hothers => (ihInside [] others hothers).1) h
        exact ⟨hfilled, fun _ => hne⟩
      · obtain ⟨hfilled, hne⟩ := ihOutside (c :: word) false segments h
        exact ⟨hfilled, fun _ => hne (Or.inr rfl)⟩
    · intro inner segments h
      rw [bracket?_cons] at h
      split_ifs at h with hbracket hblank
      · exact filled_of_map_cons hblank
          (fun others hothers => (ihOutside [] true others hothers).1) h
      · exact ihInside (c :: inner) segments h

/-- **A path that is read has segments, and none of them is empty.** -/
theorem shape_of_parse? {text : List Char} {path : List String} (h : parse? text = some path) :
    path ≠ [] ∧ ∀ segment ∈ path, segment ≠ "" := by
  obtain ⟨segments, hsegments, rfl⟩ := Option.map_eq_some_iff.mp h
  obtain ⟨hfilled, hne⟩ := (shape_of_segments? text).1 [] false segments hsegments
  refine ⟨fun hnil => hne (Or.inr rfl) (List.map_eq_nil_iff.mp hnil), ?_⟩
  refine List.forall_mem_map.mpr fun segment hsegment hempty => hfilled segment hsegment ?_
  exact String.ofList_eq_empty_iff.mp hempty

end Runbook.Path
