import Mathlib.Data.List.Chain
import Mathlib.Data.List.TakeWhile
import Runbook.Proofs.Reference.Path

/-! # The grammar of paths

A path is cut from the left into dots, brackets and words. Which sequences of these are paths is said
by a few rules, without the reader that goes through the text character by character; the reader
accepts exactly the texts whose tokens follow the rules.

* **`Path.tokens`** — the tokens of a text. There is one way to cut it (`isCut_iff`).
* **`Path.Grammatical`** — the rules for the tokens of a path.
* **`Path.segmentsOf`** — the segments that tokens stand for.
* **`Path.segments?_eq_some_iff`** — the reader behind some tokens follows the rules for those that
  are left.
* **`Path.parse?_iff_grammatical`** — a text is a path if and only if its tokens follow the rules. -/

namespace Runbook.Path

/-! ## Tokens -/

/-- A token of a path. -/
inductive Token where
  /-- A dot. -/
  | dot
  /-- An opening bracket, the text up to the first closing one, and that bracket. -/
  | bracket (inner : List Char)
  /-- An opening bracket behind which none closes, with all the text behind it. -/
  | unclosed (inner : List Char)
  /-- A run of characters that are neither dots nor opening brackets. -/
  | word (text : List Char)
  deriving DecidableEq, Repr

/-- Whether a character outside brackets belongs to a word. -/
def isWordChar (c : Char) : Bool := c != '.' && c != '['

theorem isWordChar_eq_true_iff {c : Char} : isWordChar c = true ↔ c ≠ '.' ∧ c ≠ '[' := by
  simp [isWordChar]

theorem isWordChar_eq_false_iff {c : Char} : isWordChar c = false ↔ c = '.' ∨ c = '[' := by
  rw [← Bool.not_eq_true, isWordChar_eq_true_iff]
  tauto

namespace Token

/-- The text of a token. -/
def text : Token → List Char
  | .dot => ['.']
  | .bracket inner => '[' :: (inner ++ [']'])
  | .unclosed inner => '[' :: inner
  | .word text => text

/-- The segment that a token stands for. -/
def segment? : Token → Option (List Char)
  | .bracket inner => some (Text.trim inner)
  | .word text => some text
  | .dot | .unclosed _ => none

/-- Whether a token is a word or a bracket. -/
def isSegment : Token → Bool
  | .bracket _ | .word _ => true
  | .dot | .unclosed _ => false

/-- What the kind of a token says about its text. -/
def WellFormed : Token → Prop
  | .dot => True
  | .bracket inner | .unclosed inner => ']' ∉ inner
  | .word text => text ≠ [] ∧ ∀ c ∈ text, isWordChar c = true

-- The characters of a word are checked one by one: a search for an instance may come upon one that
-- goes through all characters there are.
instance : DecidablePred WellFormed
  | .dot => inferInstanceAs (Decidable True)
  | .bracket _ | .unclosed _ => inferInstanceAs (Decidable (_ ∉ _))
  | .word text => @instDecidableAnd (text ≠ []) _ inferInstance (List.decidableBAll _ text)

/-- Which token may stand in front of which: a word goes on as far as it can, and an unclosed bracket
takes everything. -/
def MayPrecede : Token → Token → Prop
  | .unclosed _, _ => False
  | .word _, .word _ => False
  | _, _ => True

instance : DecidableRel MayPrecede
  | .unclosed _, _ | .word _, .word _ => inferInstanceAs (Decidable False)
  | .dot, _ | .bracket _, _ | .word _, .dot | .word _, .bracket _ | .word _, .unclosed _ =>
    inferInstanceAs (Decidable True)

/-- Whether a token may be a part of a path: a bracket must be closed, with more than blanks in it. -/
def Complete : Token → Prop
  | .bracket inner => Text.trim inner ≠ []
  | .unclosed _ => False
  | .dot | .word _ => True

instance : DecidablePred Complete
  | .bracket _ => inferInstanceAs (Decidable (_ ≠ _))
  | .unclosed _ => inferInstanceAs (Decidable False)
  | .dot | .word _ => inferInstanceAs (Decidable True)

end Token

/-- **The tokens of a text**, cut from the left. -/
def tokens : List Char → List Token
  | [] => []
  | c :: rest =>
    if c = '.' then .dot :: tokens rest
    else if c = '[' then
      match _h : rest.dropWhile (· != ']') with
      | [] => [.unclosed rest]
      | _ :: behind => .bracket (rest.takeWhile (· != ']')) :: tokens behind
    else .word (c :: rest.takeWhile isWordChar) :: tokens (rest.dropWhile isWordChar)
termination_by text => text.length
decreasing_by
  · simp
  · have := (List.dropWhile_suffix (l := rest) (· != ']')).length_le
    rw [_h] at this
    simp only [List.length_cons] at this ⊢
    omega
  · have := (List.dropWhile_suffix (l := rest) isWordChar).length_le
    simp only [List.length_cons]
    omega

/-- **A way to cut a text into tokens**: side by side they are the text, each is what its kind says,
and no word is broken off early. -/
structure IsCut (pieces : List Token) (text : List Char) : Prop where
  text_eq : pieces.flatMap Token.text = text
  each : ∀ piece ∈ pieces, piece.WellFormed
  apart : pieces.IsChain Token.MayPrecede

instance (pieces : List Token) (text : List Char) : Decidable (IsCut pieces text) :=
  decidable_of_iff (pieces.flatMap Token.text = text ∧ (∀ piece ∈ pieces, piece.WellFormed) ∧
      pieces.IsChain Token.MayPrecede)
    ⟨fun h => ⟨h.1, h.2.1, h.2.2⟩, fun h => ⟨h.text_eq, h.each, h.apart⟩⟩

theorem isCut_nil_iff {text : List Char} : IsCut [] text ↔ text = [] :=
  ⟨fun h => h.text_eq.symm, fun h => ⟨h.symm, fun _ hmem => absurd hmem List.not_mem_nil, .nil⟩⟩

/-- A text is cut by cutting off its first token. -/
theorem isCut_cons_iff {piece : Token} {rest : List Token} {text : List Char} :
    IsCut (piece :: rest) text ↔
      piece.WellFormed ∧ (∀ next ∈ rest.head?, piece.MayPrecede next) ∧
        ∃ behind, text = piece.text ++ behind ∧ IsCut rest behind := by
  constructor
  · rintro ⟨rfl, heach, hapart⟩
    obtain ⟨hpiece, hrest⟩ := List.forall_mem_cons.mp heach
    obtain ⟨hnext, hchain⟩ := List.isChain_cons.mp hapart
    exact ⟨hpiece, hnext, _, List.flatMap_cons, rfl, hrest, hchain⟩
  · rintro ⟨hpiece, hnext, behind, rfl, htext, hrest, hchain⟩
    refine ⟨?_, List.forall_mem_cons.mpr ⟨hpiece, hrest⟩, List.isChain_cons.mpr ⟨hnext, hchain⟩⟩
    rw [List.flatMap_cons, htext]

/-- Nothing stands behind an unclosed bracket. -/
theorem eq_nil_of_unclosed {inner : List Char} {rest : List Token}
    (hnext : ∀ next ∈ rest.head?, (Token.unclosed inner).MayPrecede next) : rest = [] := by
  cases rest with
  | nil => rfl
  | cons next rest => exact absurd (hnext next rfl) id

/-- Behind a word stands no character that would belong to it. -/
theorem IsCut.head?_of_word {word : List Char} {rest : List Token} {behind : List Char}
    (h : IsCut rest behind) (hnext : ∀ next ∈ rest.head?, (Token.word word).MayPrecede next) :
    ∀ c ∈ behind.head?, isWordChar c = false := by
  rw [← h.text_eq]
  cases rest with
  | nil => simp
  | cons next rest =>
    have hprecede := hnext next rfl
    cases next with
    | word more => exact absurd hprecede id
    | dot | bracket inner | unclosed inner => simp [Token.text, isWordChar]

/-! ## The only way to cut a text -/

theorem tokens_dot (rest : List Char) : tokens ('.' :: rest) = .dot :: tokens rest := by
  rw [tokens, if_pos rfl]

theorem tokens_bracket {inner : List Char} (h : ']' ∉ inner) (rest : List Char) :
    tokens ('[' :: (inner ++ ']' :: rest)) = .bracket inner :: tokens rest := by
  have hinner : ∀ c ∈ inner, (c != ']') = true := fun c hc =>
    bne_iff_ne.mpr fun heq => h (heq ▸ hc)
  have hdrop : (inner ++ ']' :: rest).dropWhile (· != ']') = ']' :: rest := by
    rw [List.dropWhile_append_of_pos hinner, List.dropWhile_cons_of_neg (by simp)]
  have htake : (inner ++ ']' :: rest).takeWhile (· != ']') = inner := by
    rw [List.takeWhile_append_of_pos hinner, List.takeWhile_cons_of_neg (by simp),
      List.append_nil]
  rw [tokens, if_neg (by decide), if_pos rfl]
  split
  · rename_i hnil
    rw [hdrop] at hnil
    cases hnil
  · rename_i c behind hcons
    rw [hdrop] at hcons
    cases hcons
    rw [htake]

theorem tokens_unclosed {inner : List Char} (h : ']' ∉ inner) :
    tokens ('[' :: inner) = [.unclosed inner] := by
  have hdrop : inner.dropWhile (· != ']') = [] :=
    List.dropWhile_eq_nil_iff.mpr fun c hc => bne_iff_ne.mpr fun heq => h (heq ▸ hc)
  rw [tokens, if_neg (by decide), if_pos rfl]
  split
  · rfl
  · rename_i hcons
    rw [hdrop] at hcons
    cases hcons

theorem tokens_word {word rest : List Char} (hne : word ≠ [])
    (hword : ∀ c ∈ word, isWordChar c = true) (hstop : ∀ c ∈ rest.head?, isWordChar c = false) :
    tokens (word ++ rest) = .word word :: tokens rest := by
  cases word with
  | nil => exact absurd rfl hne
  | cons c word =>
    obtain ⟨hc, hword⟩ := List.forall_mem_cons.mp hword
    obtain ⟨hdot, hbracket⟩ := isWordChar_eq_true_iff.mp hc
    have hend : rest.takeWhile isWordChar = [] ∧ rest.dropWhile isWordChar = rest := by
      cases rest with
      | nil => exact ⟨rfl, rfl⟩
      | cons d rest =>
        have hd : ¬ isWordChar d = true := Bool.eq_false_iff.mp (hstop d rfl)
        exact ⟨List.takeWhile_cons_of_neg hd, List.dropWhile_cons_of_neg hd⟩
    rw [List.cons_append, tokens, if_neg hdot, if_neg hbracket,
      List.takeWhile_append_of_pos hword, List.dropWhile_append_of_pos hword, hend.1, hend.2,
      List.append_nil]

/-- **A text that is cut has these tokens.** -/
theorem tokens_eq_of_isCut {pieces : List Token} {text : List Char} (h : IsCut pieces text) :
    tokens text = pieces := by
  -- On the pieces: each kind is cut off by its own lemma, and what is behind it is cut again.
  induction pieces generalizing text with
  | nil =>
    rw [isCut_nil_iff.mp h]
    exact tokens.eq_1
  | cons piece rest ih =>
    obtain ⟨hpiece, hnext, behind, rfl, hrest⟩ := isCut_cons_iff.mp h
    cases piece with
    | dot =>
      have htext : Token.dot.text ++ behind = '.' :: behind := rfl
      rw [htext, tokens_dot, ih hrest]
    | bracket inner =>
      have htext : (Token.bracket inner).text ++ behind = '[' :: (inner ++ ']' :: behind) := by
        simp [Token.text]
      rw [htext, tokens_bracket hpiece, ih hrest]
    | unclosed inner =>
      obtain rfl := eq_nil_of_unclosed hnext
      rw [isCut_nil_iff.mp hrest, List.append_nil]
      exact tokens_unclosed hpiece
    | word text =>
      rw [Token.text, tokens_word hpiece.1 hpiece.2 (hrest.head?_of_word hnext), ih hrest]

/-- A bracket ends at the first closing one. -/
theorem eq_append_of_dropWhile {text behind : List Char} {c : Char}
    (h : text.dropWhile (· != ']') = c :: behind) :
    text = text.takeWhile (· != ']') ++ ']' :: behind := by
  have hc : c = ']' := by
    have hstop := List.head?_dropWhile_not (· != ']') text
    rw [h] at hstop
    simpa using hstop
  subst hc
  rw [← h, List.takeWhile_append_dropWhile]

theorem bracket_notMem_takeWhile (text : List Char) : ']' ∉ text.takeWhile (· != ']') := by
  intro hmem
  simpa using List.mem_takeWhile_imp hmem

/-- The first token is no word where the first character belongs to none. -/
theorem mayPrecede_tokens (word : List Char) {text : List Char}
    (h : ∀ c ∈ text.head?, isWordChar c = false) :
    ∀ next ∈ (tokens text).head?, (Token.word word).MayPrecede next := by
  cases text with
  | nil => simp [tokens]
  | cons c rest =>
    rcases isWordChar_eq_false_iff.mp (h c rfl) with rfl | rfl
    · rw [tokens_dot]
      rintro next ⟨⟩
      trivial
    · rw [tokens, if_neg (by decide), if_pos rfl]
      split
      · rintro next ⟨⟩
        trivial
      · rintro next ⟨⟩
        trivial

/-- **The tokens of a text are a way to cut it.** -/
theorem isCut_tokens (text : List Char) : IsCut (tokens text) text := by
  -- Along the recursion of the cut itself; only a word has to say what may stand behind it.
  fun_induction tokens text with
  | case1 => exact isCut_nil_iff.mpr rfl
  | case2 rest ih =>
    exact isCut_cons_iff.mpr ⟨trivial, fun _ _ => trivial, rest, rfl, ih⟩
  | case3 rest hdrop _ =>
    have hclosed : ']' ∉ rest := fun hmem => by
      simpa using List.dropWhile_eq_nil_iff.mp hdrop ']' hmem
    exact isCut_cons_iff.mpr ⟨hclosed, by simp, [], (List.append_nil _).symm, isCut_nil_iff.mpr rfl⟩
  | case4 rest c behind hdrop _ ih =>
    refine isCut_cons_iff.mpr ⟨bracket_notMem_takeWhile rest, fun _ _ => trivial, behind, ?_, ih⟩
    rw [Token.text, List.cons_append, List.append_assoc, List.singleton_append,
      ← eq_append_of_dropWhile hdrop]
  | case5 c rest hdot hbracket ih =>
    have hstop : ∀ d ∈ (rest.dropWhile isWordChar).head?, isWordChar d = false := by
      intro d hd
      have hstop := List.head?_dropWhile_not isWordChar rest
      rw [Option.mem_def.mp hd] at hstop
      exact hstop
    refine isCut_cons_iff.mpr ⟨⟨List.cons_ne_nil _ _, ?_⟩, mayPrecede_tokens _ hstop, _, ?_, ih⟩
    · exact List.forall_mem_cons.mpr ⟨isWordChar_eq_true_iff.mpr ⟨hdot, hbracket⟩,
        fun d hd => List.mem_takeWhile_imp hd⟩
    · rw [Token.text, List.cons_append, List.takeWhile_append_dropWhile]

/-- **There is one way to cut a text.** -/
theorem isCut_iff {pieces : List Token} {text : List Char} :
    IsCut pieces text ↔ pieces = tokens text :=
  ⟨fun h => (tokens_eq_of_isCut h).symm, fun h => h ▸ isCut_tokens text⟩

/-! ## The rules -/

/-- **The rules for the tokens of a path**: every bracket is closed and holds more than blanks, every
dot stands right behind a word or a bracket, and the last token is a word or a bracket. -/
structure Grammatical (pieces : List Token) : Prop where
  complete : ∀ piece ∈ pieces, piece.Complete
  dots : ∀ before after, pieces = before ++ .dot :: after →
    ∃ last ∈ before.getLast?, last.isSegment = true
  ending : ∃ last ∈ pieces.getLast?, last.isSegment = true

/-- The segments that tokens stand for, in order. -/
def segmentsOf (pieces : List Token) : List String :=
  (pieces.filterMap Token.segment?).map String.ofList

/-- Whether tokens end in a word or a bracket; `ended` says so of what stands in front of them. -/
def endsInSegment (ended : Bool) (pieces : List Token) : Bool :=
  (pieces.getLast?.map Token.isSegment).getD ended

/-- **The rules for tokens behind others**, of which `ended` says whether they end in a word or a
bracket. -/
structure Continues (ended : Bool) (pieces : List Token) : Prop where
  complete : ∀ piece ∈ pieces, piece.Complete
  dots : ∀ before after, pieces = before ++ .dot :: after → endsInSegment ended before = true
  ending : endsInSegment ended pieces = true

@[simp] theorem endsInSegment_nil (ended : Bool) : endsInSegment ended [] = ended := rfl

@[simp] theorem endsInSegment_cons (ended : Bool) (piece : Token) (rest : List Token) :
    endsInSegment ended (piece :: rest) = endsInSegment piece.isSegment rest := by
  rw [endsInSegment, endsInSegment, List.getLast?_cons]
  cases rest.getLast? <;> rfl

theorem endsInSegment_false_iff {pieces : List Token} :
    endsInSegment false pieces = true ↔ ∃ last ∈ pieces.getLast?, last.isSegment = true := by
  rw [endsInSegment]
  cases pieces.getLast? <;> simp

/-- Where nothing stands in front, the rules are those for a path. -/
theorem continues_false_iff {pieces : List Token} : Continues false pieces ↔ Grammatical pieces := by
  constructor
  · rintro ⟨hcomplete, hdots, hending⟩
    exact ⟨hcomplete, fun before after heq => endsInSegment_false_iff.mp (hdots before after heq),
      endsInSegment_false_iff.mp hending⟩
  · rintro ⟨hcomplete, hdots, hending⟩
    exact ⟨hcomplete, fun before after heq => endsInSegment_false_iff.mpr (hdots before after heq),
      endsInSegment_false_iff.mpr hending⟩

theorem continues_nil_iff {ended : Bool} : Continues ended [] ↔ ended = true :=
  ⟨fun h => h.ending, fun h => ⟨fun _ hmem => absurd hmem List.not_mem_nil, by simp, h⟩⟩

/-- **The rules, token by token.** -/
theorem continues_cons_iff {ended : Bool} {piece : Token} {rest : List Token} :
    Continues ended (piece :: rest) ↔
      piece.Complete ∧ (piece = .dot → ended = true) ∧ Continues piece.isSegment rest := by
  constructor
  · rintro ⟨hcomplete, hdots, hending⟩
    obtain ⟨hpiece, hrest⟩ := List.forall_mem_cons.mp hcomplete
    refine ⟨hpiece, fun hdot => hdots [] rest (by rw [hdot]; rfl), hrest, ?_, ?_⟩
    · rintro before after rfl
      simpa using hdots (piece :: before) after rfl
    · simpa using hending
  · rintro ⟨hpiece, hdot, hcomplete, hdots, hending⟩
    refine ⟨List.forall_mem_cons.mpr ⟨hpiece, hcomplete⟩, fun before after heq => ?_, ?_⟩
    · cases before with
      | nil => exact hdot (List.cons.inj heq).1
      | cons first before =>
        obtain ⟨rfl, hrest⟩ := List.cons.inj heq
        simpa using hdots before after hrest
    · simpa using hending

/-- The rules can be checked token by token. -/
instance decidableContinues : ∀ ended pieces, Decidable (Continues ended pieces)
  | _, [] => decidable_of_iff _ continues_nil_iff.symm
  | _, piece :: rest =>
    have := decidableContinues piece.isSegment rest
    decidable_of_iff _ continues_cons_iff.symm

instance : DecidablePred Grammatical := fun _ => decidable_of_iff _ continues_false_iff

/-! ## Reading tokens -/

/-- A word is collected character by character. -/
theorem segments?_append {more : List Char} (h : ∀ c ∈ more, isWordChar c = true)
    (word rest : List Char) :
    segments? word false (more ++ rest) = segments? (more.reverse ++ word) false rest := by
  induction more generalizing word with
  | nil => rfl
  | cons c more ih =>
    obtain ⟨hc, hmore⟩ := List.forall_mem_cons.mp h
    obtain ⟨hdot, hbracket⟩ := isWordChar_eq_true_iff.mp hc
    rw [List.cons_append, segments?_cons, if_neg hdot, if_neg hbracket, ih hmore,
      List.reverse_cons, List.append_assoc, List.singleton_append]

/-- Where a word cannot go on it ends, and what follows is read as behind a bracket. -/
theorem segments?_of_stop {word rest : List Char} (hne : word ≠ [])
    (hstop : ∀ c ∈ rest.head?, isWordChar c = false) (closed : Bool) :
    segments? word closed rest = (segments? [] true rest).map (word.reverse :: ·) := by
  cases rest with
  | nil => simp [segments?, hne]
  | cons c rest =>
    rcases isWordChar_eq_false_iff.mp (hstop c rfl) with rfl | rfl
    · simp [segments?_cons, hne]
    · simp [segments?_cons, hne]

theorem segments?_word {word rest : List Char} (hne : word ≠ [])
    (hword : ∀ c ∈ word, isWordChar c = true) (hstop : ∀ c ∈ rest.head?, isWordChar c = false)
    (ended : Bool) :
    segments? [] ended (word ++ rest) = (segments? [] true rest).map (word :: ·) := by
  cases word with
  | nil => exact absurd rfl hne
  | cons c word =>
    obtain ⟨hc, hmore⟩ := List.forall_mem_cons.mp hword
    obtain ⟨hdot, hbracket⟩ := isWordChar_eq_true_iff.mp hc
    rw [List.cons_append, segments?_cons, if_neg hdot, if_neg hbracket, segments?_append hmore,
      segments?_of_stop (by simp) hstop]
    simp

theorem segments?_dot (ended : Bool) (rest : List Char) :
    segments? [] ended ('.' :: rest) = if ended then segments? [] false rest else none := by
  rw [segments?_cons, if_pos rfl, if_pos rfl]

theorem segments?_unclosed {inner : List Char} (h : ']' ∉ inner) (ended : Bool) :
    segments? [] ended ('[' :: inner) = none := by
  have hnone : bracket? [] (inner ++ []) = none := by
    rw [bracket?_append h]
    exact bracket?.eq_1 _
  rw [segments?_cons, if_neg (by decide), if_pos rfl, if_pos rfl, ← hnone, List.append_nil]

/-- A segment comes in front of those that are found behind it. -/
theorem map_cons_eq_some_iff {found : Option (List (List Char))} {rest : List (List Char)} {p : Prop}
    (h : ∀ others, found = some others ↔ p ∧ others = rest) (segment : List Char)
    {segments : List (List Char)} :
    found.map (segment :: ·) = some segments ↔ p ∧ segments = segment :: rest := by
  rw [Option.map_eq_some_iff]
  constructor
  · rintro ⟨others, hothers, rfl⟩
    obtain ⟨hp, rfl⟩ := (h others).mp hothers
    exact ⟨hp, rfl⟩
  · rintro ⟨hp, rfl⟩
    exact ⟨rest, (h rest).mpr ⟨hp, rfl⟩, rfl⟩

/-- **The reader behind some tokens follows the rules for those that are left**, and gives their
segments. -/
theorem segments?_eq_some_iff {pieces : List Token} {text : List Char} (h : IsCut pieces text)
    {ended : Bool} {segments : List (List Char)} :
    segments? [] ended text = some segments ↔
      Continues ended pieces ∧ segments = pieces.filterMap Token.segment? := by
  -- On the pieces, for either state of the reader: between two tokens it holds no unfinished word, so
  -- all it remembers is `ended`.
  induction pieces generalizing text ended segments with
  | nil =>
    rw [isCut_nil_iff.mp h, continues_nil_iff]
    cases ended <;> simp [segments?, eq_comm]
  | cons piece rest ih =>
    obtain ⟨hpiece, hnext, behind, rfl, hrest⟩ := isCut_cons_iff.mp h
    rw [continues_cons_iff]
    cases piece with
    | dot =>
      have htext : Token.dot.text ++ behind = '.' :: behind := rfl
      have hsegments : (Token.dot :: rest).filterMap Token.segment? =
          rest.filterMap Token.segment? := rfl
      rw [htext, segments?_dot, hsegments]
      cases ended with
      | false => simp -- a dot in front of all else, or a second one
      | true => simpa [Token.Complete, Token.isSegment] using ih hrest
    | bracket inner =>
      have htext : (Token.bracket inner).text ++ behind = '[' :: (inner ++ ']' :: behind) := by
        simp [Token.text]
      rw [htext, segments?_bracket hpiece]
      by_cases hblank : Text.trim inner = []
      · simp [Token.Complete, hblank]
      · rw [if_neg hblank, map_cons_eq_some_iff fun others => ih hrest]
        simp [Token.Complete, hblank, Token.isSegment, Token.segment?]
    | unclosed inner =>
      obtain rfl := eq_nil_of_unclosed hnext
      have htext : (Token.unclosed inner).text ++ behind = '[' :: inner := by
        simp [Token.text, isCut_nil_iff.mp hrest]
      rw [htext, segments?_unclosed hpiece]
      simp [Token.Complete]
    | word text =>
      rw [Token.text, segments?_word hpiece.1 hpiece.2 (hrest.head?_of_word hnext),
        map_cons_eq_some_iff fun others => ih hrest]
      simp [Token.Complete, Token.isSegment, Token.segment?]

/-- **A path is read from the tokens that follow the rules.** -/
theorem parse?_eq_some_iff {text : List Char} {path : List String} :
    parse? text = some path ↔ Grammatical (tokens text) ∧ path = segmentsOf (tokens text) := by
  rw [parse?, Option.map_eq_some_iff, segmentsOf, ← continues_false_iff]
  constructor
  · rintro ⟨segments, hsegments, rfl⟩
    obtain ⟨hcontinues, rfl⟩ := (segments?_eq_some_iff (isCut_tokens text)).mp hsegments
    exact ⟨hcontinues, rfl⟩
  · rintro ⟨hcontinues, rfl⟩
    exact ⟨_, (segments?_eq_some_iff (isCut_tokens text)).mpr ⟨hcontinues, rfl⟩, rfl⟩

/-- **A text is a path if and only if its tokens follow the rules.** There is one way to cut a text into
dots, brackets and words. If every bracket is closed and not blank, every dot stands right behind a
word or a bracket, and a word or a bracket comes last, then the segments of the path are the words and
the trimmed insides of the brackets, in order; there is at least one, and none is empty. No other text
is a path. -/
theorem parse?_iff_grammatical (text : List Char) :
    (∀ pieces, IsCut pieces text ↔ pieces = tokens text) ∧
      (∀ path, parse? text = some path ↔
        Grammatical (tokens text) ∧ path = segmentsOf (tokens text)) ∧
      (parse? text = none ↔ ¬ Grammatical (tokens text)) ∧
      (Grammatical (tokens text) →
        segmentsOf (tokens text) ≠ [] ∧ ∀ segment ∈ segmentsOf (tokens text), segment ≠ "") := by
  refine ⟨fun pieces => isCut_iff, fun path => parse?_eq_some_iff, ?_, fun hgrammatical => ?_⟩
  · constructor
    · intro hnone hgrammatical
      rw [parse?_eq_some_iff.mpr ⟨hgrammatical, rfl⟩] at hnone
      cases hnone
    · intro hnot
      refine Option.eq_none_iff_forall_ne_some.mpr fun path hpath => ?_
      exact hnot (parse?_eq_some_iff.mp hpath).1
  · exact shape_of_parse? (parse?_eq_some_iff.mpr ⟨hgrammatical, rfl⟩)

/-- Brackets behind a dot, in front of a word and at the end, with a dot and a bracket inside. -/
def sampleTokens : List Token :=
  [.word ['a'], .dot, .bracket [' ', '0', ' '], .word ['b', ']'], .bracket ['x', '.', '[']]

/-- They are cut from their text and read as its path; a second dot in it would be one too many. -/
theorem parse?_sampleTokens :
    Grammatical (tokens "a.[ 0 ]b][x.[]".toList) ∧
      parse? "a.[ 0 ]b][x.[]".toList = some ["a", "0", "b]", "x.["] ∧
      parse? "a..[ 0 ]b][x.[]".toList = none := by
  obtain ⟨hcut, hpath, -, -⟩ := parse?_iff_grammatical "a.[ 0 ]b][x.[]".toList
  have htokens : sampleTokens = tokens "a.[ 0 ]b][x.[]".toList := (hcut _).mp (by decide +kernel)
  have hgrammatical : Grammatical (tokens "a.[ 0 ]b][x.[]".toList) := by
    rw [← htokens]
    decide +kernel
  refine ⟨hgrammatical, (hpath _).mpr ⟨hgrammatical, ?_⟩, ?_⟩
  · rw [← htokens]
    decide +kernel
  · obtain ⟨hcut, -, hnone, -⟩ := parse?_iff_grammatical "a..[ 0 ]b][x.[]".toList
    have htokens : .word ['a'] :: .dot :: sampleTokens.tail = tokens "a..[ 0 ]b][x.[]".toList :=
      (hcut _).mp (by decide +kernel)
    rw [hnone, ← htokens]
    decide +kernel

end Runbook.Path
