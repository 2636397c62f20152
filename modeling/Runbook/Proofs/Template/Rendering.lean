import Mathlib.Data.List.Chain
import Runbook.Proofs.Template.Spans
import Runbook.Proofs.Text.Trim

/-! # Which pieces a text can have

The pieces of a text follow rules that come from the way in which it is scanned. The rules are exact:
pieces that follow them can be written as a text that has just these pieces.

* **`Template.Disturbs`** — a text behind which an opening would not begin a placeholder.
* **`Template.WellFormed`** — the rules for a list of pieces.
* **`Template.wellFormed_segments`** — the pieces of every text follow them.
* **`Template.render`** — a text with given pieces; runs of braces in literals are escaped.
* **`Template.segments_render`** — scanning such a text finds the pieces again.
* **`Template.segments_wellFormed_and_rendered`** — both together: the rules are exact. -/

namespace Runbook

/-! ## The rules -/

namespace Template

/-- **A text behind which an opening would not begin a placeholder**: it ends in a backslash, which
would escape the opening, or in a brace without another before it, which would be taken for the first
brace of the opening. -/
def Disturbs (text : List Char) : Prop :=
  ['\\'] <:+ text ∨ (['{'] <:+ text ∧ ¬ ['{', '{'] <:+ text)

instance : DecidablePred Disturbs := fun _ => inferInstanceAs (Decidable (_ ∨ _))

end Template

namespace Segment

/-- What holds of a piece by itself. -/
def WellFormed : Segment → Prop
  | .literal text => text ≠ []
  | .placeholder expression =>
    expression ≠ [] ∧ Text.IsTrimmed expression ∧ ¬ ['}', '}'] <:+: expression

instance : DecidablePred WellFormed
  | .literal _ => inferInstanceAs (Decidable (_ ≠ _))
  | .placeholder _ => inferInstanceAs (Decidable (_ ∧ _ ∧ _))

/-- Which piece may stand in front of which. -/
def MayPrecede : Segment → Segment → Prop
  | .literal _, .literal _ => False
  | .literal text, .placeholder _ => ¬ Template.Disturbs text
  | .placeholder _, _ => True

instance : DecidableRel MayPrecede
  | .literal _, .literal _ => inferInstanceAs (Decidable False)
  | .literal _, .placeholder _ => inferInstanceAs (Decidable (¬ _))
  | .placeholder _, _ => inferInstanceAs (Decidable True)

end Segment

namespace Template

/-- **The rules for a list of pieces.** -/
structure WellFormed (pieces : List Segment) : Prop where
  /-- Literals have a text; placeholders have a trimmed expression without a closing. -/
  each : ∀ piece ∈ pieces, piece.WellFormed
  /-- Literals are apart from each other, and do not disturb a placeholder behind them. -/
  apart : pieces.IsChain Segment.MayPrecede

instance : DecidablePred WellFormed := fun pieces =>
  decidable_of_iff ((∀ piece ∈ pieces, piece.WellFormed) ∧ pieces.IsChain Segment.MayPrecede)
    ⟨fun h => ⟨h.1, h.2⟩, fun h => ⟨h.each, h.apart⟩⟩

theorem wellFormed_nil : WellFormed [] := ⟨fun _ h => absurd h List.not_mem_nil, .nil⟩

/-- The rules hold of pieces if they hold of the first, of what is behind it, and between the two. -/
theorem wellFormed_cons_iff {piece : Segment} {rest : List Segment} :
    WellFormed (piece :: rest) ↔
      piece.WellFormed ∧ (∀ next ∈ rest.head?, piece.MayPrecede next) ∧ WellFormed rest := by
  constructor
  · rintro ⟨heach, hapart⟩
    obtain ⟨hpiece, hrest⟩ := List.forall_mem_cons.mp heach
    obtain ⟨hnext, hchain⟩ := List.isChain_cons.mp hapart
    exact ⟨hpiece, hnext, hrest, hchain⟩
  · rintro ⟨hpiece, hnext, hrest, hchain⟩
    exact ⟨List.forall_mem_cons.mpr ⟨hpiece, hrest⟩, List.isChain_cons.mpr ⟨hnext, hchain⟩⟩

/-! ## Texts that disturb an opening -/

/-- Only a backslash and a brace at the end of a text disturb. -/
theorem not_disturbs_concat {c : Char} (hbackslash : c ≠ '\\') (hbrace : c ≠ '{')
    (before : List Char) : ¬ Disturbs (before ++ [c]) := by
  rintro (⟨more, hmore⟩ | ⟨⟨more, hmore⟩, -⟩)
  · exact hbackslash (List.singleton_inj.mp (List.append_inj_right' hmore rfl)).symm
  · exact hbrace (List.singleton_inj.mp (List.append_inj_right' hmore rfl)).symm

/-- Whether a text disturbs depends on its end only. -/
theorem disturbs_of_append {before text : List Char} (h : Disturbs (before ++ text))
    (hne : text ≠ []) : Disturbs text := by
  have hend : text <:+ before ++ text := List.suffix_append before text
  have hlength : 1 ≤ text.length := List.length_pos_iff.mpr hne
  rcases h with h | ⟨h, hdouble⟩
  · exact .inl (List.suffix_of_suffix_length_le h hend hlength)
  · exact .inr ⟨List.suffix_of_suffix_length_le h hend hlength,
      fun hsuffix => hdouble (hsuffix.trans hend)⟩

/-- What disturbs goes on to do so behind another text, unless a brace joins a single brace. -/
theorem Disturbs.append {before text : List Char} (h : Disturbs text)
    (hjoint : ['{'] <:+ before → ¬ ['{'] <+: text) : Disturbs (before ++ text) := by
  have hend : text <:+ before ++ text := List.suffix_append before text
  rcases h with h | ⟨hbrace, hdouble⟩
  · exact .inl (h.trans hend)
  · refine .inr ⟨hbrace.trans hend, ?_⟩
    rintro ⟨more, hmore⟩
    obtain ⟨front, rfl⟩ := hbrace
    rcases List.eq_nil_or_concat front with rfl | ⟨front, last, rfl⟩
    · have hlonger : (more ++ ['{']) ++ ['{'] = before ++ ['{'] := by simpa using hmore
      exact hjoint ⟨more, List.append_cancel_right hlonger⟩ ⟨[], rfl⟩
    · refine hdouble (List.suffix_of_suffix_length_le ⟨more, hmore⟩ hend ?_)
      simp

/-! ## Literal text in front of pieces -/

/-- Text in front of pieces is their first literal, or joins it. -/
theorem prependLiteral_eq {text : List Char} (hne : text ≠ []) (pieces : List Segment) :
    prependLiteral text pieces =
      match pieces with
      | .literal more :: rest => .literal (text ++ more) :: rest
      | pieces => .literal text :: pieces := by
  induction text with
  | nil => exact absurd rfl hne
  | cons c text ih =>
    have hstep : prependLiteral (c :: text) pieces = consLiteral c (prependLiteral text pieces) := rfl
    rw [hstep]
    by_cases htext : text = []
    · subst htext
      rcases pieces with _ | ⟨_ | _, _⟩ <;> rfl
    · rw [ih htext]
      rcases pieces with _ | ⟨_ | _, _⟩ <;> rfl

/-- The pieces in front of which text was put begin with a literal. -/
theorem prependLiteral_ne_placeholder {text : List Char} (hne : text ≠ []) (pieces : List Segment)
    {expression : List Char} {rest : List Segment} :
    prependLiteral text pieces ≠ .placeholder expression :: rest := by
  rw [prependLiteral_eq hne]
  split <;> simp

/-- **Text may be put in front of pieces** unless it would disturb a placeholder there. -/
theorem wellFormed_prependLiteral {text : List Char} {pieces : List Segment} (hne : text ≠ [])
    (hpieces : WellFormed pieces)
    (h : ∀ expression, .placeholder expression ∈ pieces.head? → ¬ Disturbs text) :
    WellFormed (prependLiteral text pieces) := by
  rw [prependLiteral_eq hne]
  split
  · rename_i more rest
    obtain ⟨hmore, hnext, hrest⟩ := wellFormed_cons_iff.mp hpieces
    refine wellFormed_cons_iff.mpr ⟨by simp [Segment.WellFormed, hne], fun next hmem => ?_, hrest⟩
    have hnext := hnext next hmem
    cases next with
    | literal _ => exact hnext
    | placeholder _ => exact fun hdisturbs => hnext (disturbs_of_append hdisturbs hmore)
  · rename_i hliteral
    refine wellFormed_cons_iff.mpr ⟨hne, fun next hmem => ?_, hpieces⟩
    cases next with
    | literal more =>
      obtain ⟨rest, rfl⟩ := List.head?_eq_some_iff.mp hmem
      exact absurd rfl (hliteral more rest)
    | placeholder expression => exact h expression hmem

/-! ## The pieces of a text follow the rules -/

/-- Only an opening begins a placeholder. -/
theorem opening_of_placeholder_mem_head? {text expression : List Char}
    (h : .placeholder expression ∈ (segments text).head?) : ['{', '{'] <+: text := by
  obtain ⟨rest, hsegments⟩ := List.head?_eq_some_iff.mp h
  rw [segments.eq_def] at hsegments
  split at hsegments
  · cases hsegments
  · exact absurd hsegments (prependLiteral_ne_placeholder (by simp) _)
  · simp [List.cons_prefix_cons]
  · rename_i c rest' _ _
    exact absurd hsegments (prependLiteral_ne_placeholder (List.cons_ne_nil c []) _)

/-- A trimmed expression that ends at the nearest closing is one of the rules. -/
theorem wellFormed_placeholder {inner : List Char} (hclosing : ¬ ['}', '}'] <:+: inner ++ ['}'])
    (hne : Text.trim inner ≠ []) : (Segment.placeholder (Text.trim inner)).WellFormed := by
  refine ⟨hne, Text.isTrimmed_trim inner, fun hwithin => hclosing ?_⟩
  exact (hwithin.trans (Text.infix_trim inner)).trans (List.prefix_append inner ['}']).isInfix

/-- **The pieces of every text follow the rules.** -/
theorem wellFormed_segments (text : List Char) : WellFormed (segments text) := by
  fun_induction spans text with
  | case1 => exact wellFormed_nil
  | case2 rest ih =>
    rw [segments]
    exact wellFormed_prependLiteral (by simp) ih fun _ _ => by decide
  | case3 rest hcut =>
    rw [segments, segmentsInside_eq, hcut]
    exact wellFormed_prependLiteral (by simp) wellFormed_nil fun _ h => absurd h (by simp)
  | case4 rest inner behind hcut ih =>
    rw [segments, segmentsInside_eq, hcut]
    dsimp only
    split
    · refine wellFormed_prependLiteral (by simp) ih fun _ _ => ?_
      have hend : '{' :: '{' :: (inner ++ ['}', '}']) = '{' :: '{' :: (inner ++ ['}']) ++ ['}'] := by
        rw [List.cons_append, List.cons_append, List.append_assoc]
        rfl
      rw [List.reverse_nil, List.nil_append, hend]
      exact not_disturbs_concat (by decide) (by decide) _
    · rename_i hne
      refine wellFormed_cons_iff.mpr ⟨?_, fun _ _ => trivial, ih⟩
      exact wellFormed_placeholder (not_infix_of_cutClosing hcut) hne
  | case5 c rest hesc hopen ih =>
    rw [segments]
    · refine wellFormed_prependLiteral (List.cons_ne_nil c []) ih fun expression hmem => ?_
      obtain ⟨more, rfl⟩ := opening_of_placeholder_mem_head? hmem
      exact not_disturbs_concat (fun hc => hesc more hc rfl) (fun hc => hopen ('{' :: more) hc rfl) []
    · exact hesc
    · exact hopen

/-! ## Writing pieces -/

/-- **A run of braces as it is written**: each pair is escaped, and behind a brace by itself if their
number is odd. A single brace stands for itself. -/
def writeBraces (count : Nat) : List Char :=
  (if count % 2 = 1 then ['{'] else []) ++ (List.replicate (count / 2) ['\\', '{', '{']).flatten

/-- A literal text as it is written: every run of braces, up to the first other character, is written
as such, and every other character as it is. -/
def writeLiteral : List Char → List Char
  | [] => []
  | c :: rest =>
    if c = '{' then
      writeBraces ((rest.takeWhile (· == '{')).length + 1) ++ writeLiteral (rest.dropWhile (· == '{'))
    else c :: writeLiteral rest
termination_by text => text.length
decreasing_by
  · have := (List.dropWhile_suffix (l := rest) (· == '{')).length_le
    simp only [List.length_cons]
    omega
  · simp only [List.length_cons]
    omega

/-- A piece as it is written. -/
def renderPiece : Segment → List Char
  | .literal text => writeLiteral text
  | .placeholder expression => '{' :: '{' :: ' ' :: (expression ++ [' ', '}', '}'])

/-- **The text that is written for pieces.** -/
def render (pieces : List Segment) : List Char := pieces.flatMap renderPiece

/-! ## Scanning what was written -/

/-- A character that begins neither an escape nor an opening is plain text. -/
theorem segments_cons {c : Char} {rest : List Char} (hescape : c = '\\' → ¬ ['{', '{'] <+: rest)
    (hopening : c = '{' → ¬ ['{'] <+: rest) : segments (c :: rest) = consLiteral c (segments rest) := by
  rw [segments]
  · rintro more rfl rfl
    exact hescape rfl ⟨more, rfl⟩
  · rintro more rfl rfl
    exact hopening rfl ⟨more, rfl⟩

/-- Two texts that are put in front of pieces one after the other are put there together. -/
theorem prependLiteral_append (first second : List Char) (pieces : List Segment) :
    prependLiteral (first ++ second) pieces = prependLiteral first (prependLiteral second pieces) :=
  List.foldr_append

/-- Escapes of openings stand for the braces in them. -/
theorem segments_escapes (count : Nat) (rest : List Char) :
    segments ((List.replicate count ['\\', '{', '{']).flatten ++ rest) =
      prependLiteral (List.replicate (2 * count) '{') (segments rest) := by
  induction count with
  | zero => rfl
  | succ count ih =>
    have hbraces : List.replicate (2 * (count + 1)) '{' =
        ['{', '{'] ++ List.replicate (2 * count) '{' := by
      rw [Nat.mul_add, Nat.add_comm, ← List.replicate_append_replicate]
      rfl
    rw [List.replicate_succ, List.flatten_cons, List.append_assoc, hbraces, prependLiteral_append,
      ← ih]
    rfl

/-- No brace is the first character of escapes, as long as there are any. -/
theorem brace_not_prefix_escapes {count : Nat} {rest : List Char}
    (h : count = 0 → ¬ ['{'] <+: rest) :
    ¬ ['{'] <+: (List.replicate count ['\\', '{', '{']).flatten ++ rest := by
  cases count with
  | zero => exact h rfl
  | succ count =>
    rw [List.replicate_succ, List.flatten_cons, List.append_assoc, List.cons_append,
      List.cons_prefix_cons]
    exact fun hprefix => absurd hprefix.1 (by decide)

/-- **A run of braces that was written is found again**, unless it is a single brace that a brace
follows. -/
theorem segments_writeBraces {count : Nat} {rest : List Char} (h : count = 1 → ¬ ['{'] <+: rest) :
    segments (writeBraces count ++ rest) =
      prependLiteral (List.replicate count '{') (segments rest) := by
  rw [writeBraces]
  by_cases hodd : count % 2 = 1
  · have hcount : 1 + 2 * (count / 2) = count := by omega
    have hbraces : List.replicate count '{' = ['{'] ++ List.replicate (2 * (count / 2)) '{' := by
      calc List.replicate count '{' = List.replicate (1 + 2 * (count / 2)) '{' := by rw [hcount]
        _ = ['{'] ++ List.replicate (2 * (count / 2)) '{' := by
          rw [← List.replicate_append_replicate, List.replicate_one]
    rw [if_pos hodd, List.append_assoc, List.singleton_append, segments_cons, segments_escapes,
      hbraces, prependLiteral_append]
    · rfl
    · exact fun hc => absurd hc (by decide)
    · exact fun _ => brace_not_prefix_escapes fun hnone => h (by omega)
  · have hcount : 2 * (count / 2) = count := by omega
    rw [if_neg hodd, List.nil_append, segments_escapes, hcount]

/-- A run of braces that was written begins no opening by itself. -/
theorem opening_not_prefix_writeBraces {count : Nat} {rest : List Char}
    (hnone : count = 0 → ¬ ['{', '{'] <+: rest) (hsingle : count = 1 → ¬ ['{'] <+: rest) :
    ¬ ['{', '{'] <+: writeBraces count ++ rest := by
  rw [writeBraces]
  by_cases hodd : count % 2 = 1
  · rw [if_pos hodd, List.append_assoc, List.singleton_append, List.cons_prefix_cons]
    exact fun hprefix =>
      brace_not_prefix_escapes (fun hpairs => hsingle (by omega)) hprefix.2
  · rw [if_neg hodd, List.nil_append]
    intro hprefix
    by_cases hpairs : count / 2 = 0
    · rw [hpairs] at hprefix
      exact hnone (by omega) hprefix
    · have hbrace : ['{'] <+: ['{', '{'] := ⟨['{'], rfl⟩
      exact brace_not_prefix_escapes (fun h => absurd h hpairs) (hbrace.trans hprefix)

/-- A text begins with the braces of its first run, and none follows them. -/
theorem run_append (text : List Char) :
    List.replicate (text.takeWhile (· == '{')).length '{' ++ text.dropWhile (· == '{') = text := by
  have hrun : text.takeWhile (· == '{') =
      List.replicate (text.takeWhile (· == '{')).length '{' :=
    List.eq_replicate_of_mem fun c hc => by simpa using List.mem_takeWhile_imp hc
  rw [← hrun, List.takeWhile_append_dropWhile]

theorem brace_not_prefix_dropWhile (text : List Char) :
    ¬ ['{'] <+: text.dropWhile (· == '{') := by
  rintro ⟨more, hmore⟩
  have hhead := List.head?_dropWhile_not (· == '{') text
  rw [← hmore] at hhead
  simp at hhead

/-- A written literal begins with a brace only if the literal does. -/
theorem brace_not_prefix_writeLiteral {text rest : List Char} (htext : ¬ ['{'] <+: text)
    (hempty : text = [] → ¬ ['{'] <+: rest) : ¬ ['{'] <+: writeLiteral text ++ rest := by
  fun_cases writeLiteral text with
  | case1 => exact hempty rfl
  | case2 text => exact absurd ⟨text, rfl⟩ htext
  | case3 c text hc => exact fun hprefix => hc (List.cons_prefix_cons.mp hprefix).1.symm

/-- Behind a single brace that does not disturb, no brace is written. -/
theorem brace_not_prefix_of_single {text rest : List Char} (h : rest ≠ [] → ¬ Disturbs ('{' :: text))
    (hsingle : (text.takeWhile (· == '{')).length + 1 = 1) :
    ¬ ['{'] <+: writeLiteral (text.dropWhile (· == '{')) ++ rest := by
  refine brace_not_prefix_writeLiteral (brace_not_prefix_dropWhile text) fun hnil => ?_
  have htext : text = [] := by
    have hrun := run_append text
    rw [hnil, Nat.succ.inj hsingle] at hrun
    exact hrun.symm
  rintro ⟨more, rfl⟩
  rw [htext] at h
  exact h (List.cons_ne_nil '{' more) (by decide)

/-- **A literal that was written begins no opening**, and none begins at its end. -/
theorem opening_not_prefix_writeLiteral {text rest : List Char} (h : rest ≠ [] → ¬ Disturbs text)
    (hempty : text = [] → ¬ ['{', '{'] <+: rest) : ¬ ['{', '{'] <+: writeLiteral text ++ rest := by
  fun_cases writeLiteral text with
  | case1 => exact hempty rfl
  | case2 text =>
    rw [List.append_assoc]
    exact opening_not_prefix_writeBraces (fun hnone => absurd hnone (by simp))
      (brace_not_prefix_of_single h)
  | case3 c text hc => exact fun hprefix => hc (List.cons_prefix_cons.mp hprefix).1.symm

/-- **A literal that was written is found again** in front of a text behind which it does not
disturb. -/
theorem segments_writeLiteral {text rest : List Char} (h : rest ≠ [] → ¬ Disturbs text) :
    segments (writeLiteral text ++ rest) = prependLiteral text (segments rest) := by
  fun_induction writeLiteral text with
  | case1 => rfl
  | case2 text ih =>
    have hrun : List.replicate ((text.takeWhile (· == '{')).length + 1) '{' ++
        text.dropWhile (· == '{') = '{' :: text := by
      rw [List.replicate_succ, List.cons_append, run_append]
    have hbehind : rest ≠ [] → ¬ Disturbs (text.dropWhile (· == '{')) := fun hrest hdisturbs =>
      h hrest (hrun ▸ hdisturbs.append fun _ => brace_not_prefix_dropWhile text)
    rw [List.append_assoc, segments_writeBraces (brace_not_prefix_of_single h), ih hbehind,
      ← prependLiteral_append, hrun]
  | case3 c text hc ih =>
    have hjoint : ['{'] <:+ [c] → ¬ ['{'] <+: text := fun hbrace =>
      absurd (List.singleton_inj.mp (hbrace.eq_of_length rfl)).symm hc
    have hbehind : rest ≠ [] → ¬ Disturbs text := fun hrest hdisturbs =>
      h hrest (hdisturbs.append hjoint)
    have hescape : c = '\\' → ¬ ['{', '{'] <+: writeLiteral text ++ rest := by
      rintro rfl
      refine opening_not_prefix_writeLiteral hbehind fun hnil => ?_
      rintro ⟨more, rfl⟩
      rw [hnil] at h
      exact h (by simp) (by decide)
    rw [List.cons_append, segments_cons hescape fun hbrace => absurd hbrace hc, ih hbehind]
    rfl

/-- The nearest closing is found behind a text in which none begins. -/
theorem cutClosing_append {inner : List Char} (h : ¬ ['}', '}'] <:+: inner ++ ['}'])
    (rest : List Char) : cutClosing (inner ++ '}' :: '}' :: rest) = some (inner, rest) := by
  induction inner with
  | nil => rfl
  | cons c inner ih =>
    rw [List.cons_append, List.infix_cons_iff, not_or] at h
    rw [List.cons_append, cutClosing, ih h.2]
    · rfl
    · rintro more rfl hmore
      refine h.1 (closing_prefix_cons_iff.mpr ⟨rfl, ?_⟩)
      cases inner with
      | nil => exact ⟨[], rfl⟩
      | cons d inner =>
        obtain ⟨rfl, -⟩ := List.cons.inj hmore
        exact ⟨inner ++ ['}'], rfl⟩

/-- No closing begins in an expression between blanks, or at its end. -/
theorem not_infix_of_blank {expression : List Char} (h : ¬ ['}', '}'] <:+: expression) :
    ¬ ['}', '}'] <:+: ' ' :: (expression ++ [' ']) ++ ['}'] := by
  rw [List.infix_concat_iff]
  rintro (⟨more, hmore⟩ | hwithin)
  · have hlonger : (more ++ ['}']) ++ ['}'] = (' ' :: expression ++ [' ']) ++ ['}'] := by
      simpa using hmore
    have hend : ['}'] = [' '] := List.append_inj_right' (List.append_cancel_right hlonger) rfl
    exact absurd hend (by decide)
  · rw [List.infix_cons_iff, List.cons_prefix_cons, List.infix_concat_iff] at hwithin
    rcases hwithin with ⟨hblank, -⟩ | ⟨more, hmore⟩ | hwithin
    · exact absurd hblank (by decide)
    · have hlonger : (more ++ ['}']) ++ ['}'] = expression ++ [' '] := by simpa using hmore
      exact absurd (List.append_inj_right' hlonger rfl) (by decide)
    · exact h hwithin

/-- An opening and the nearest closing behind it are a placeholder, unless there are only blanks
between them. -/
theorem segments_of_closing {inner : List Char} (h : ¬ ['}', '}'] <:+: inner ++ ['}'])
    (hne : Text.trim inner ≠ []) (rest : List Char) :
    segments ('{' :: '{' :: (inner ++ '}' :: '}' :: rest)) =
      .placeholder (Text.trim inner) :: segments rest := by
  have hfilled : ¬ Text.trim ([].reverse ++ inner) = [] := hne
  rw [segments, segmentsInside_eq, cutClosing_append h]
  dsimp only
  rw [if_neg hfilled]
  rfl

/-- **A placeholder that was written is found again**, whatever follows it. -/
theorem segments_placeholder {expression : List Char}
    (h : (Segment.placeholder expression).WellFormed) (rest : List Char) :
    segments (renderPiece (.placeholder expression) ++ rest) =
      .placeholder expression :: segments rest := by
  obtain ⟨hne, htrimmed, hclosing⟩ := h
  have hblank : ∀ c ∈ [' '], Text.isBlank c = true := List.forall_mem_singleton.mpr rfl
  have htrim : Text.trim (' ' :: (expression ++ [' '])) = expression :=
    Text.trim_eq_of_blank htrimmed hne hblank hblank
  have hwritten : renderPiece (.placeholder expression) ++ rest =
      '{' :: '{' :: (' ' :: (expression ++ [' ']) ++ '}' :: '}' :: rest) := by
    simp [renderPiece]
  rw [hwritten, segments_of_closing (not_infix_of_blank hclosing) (by rwa [htrim]), htrim]

/-- **Pieces that follow the rules are found again** in the text that is written for them. -/
theorem segments_render {pieces : List Segment} (h : WellFormed pieces) :
    segments (render pieces) = pieces := by
  induction pieces with
  | nil => rfl
  | cons piece rest ih =>
    obtain ⟨hpiece, hnext, hrest⟩ := wellFormed_cons_iff.mp h
    rw [render, List.flatMap_cons]
    change segments (renderPiece piece ++ render rest) = _
    cases piece with
    | placeholder expression => rw [segments_placeholder hpiece, ih hrest]
    | literal text =>
      have hdisturbs : render rest ≠ [] → ¬ Disturbs text := by
        intro hne
        cases rest with
        | nil => exact absurd rfl hne
        | cons next rest =>
          have hprecede := hnext next rfl
          cases next with
          | literal more => exact absurd hprecede id
          | placeholder expression => exact hprecede
      rw [renderPiece, segments_writeLiteral hdisturbs, ih hrest, prependLiteral_eq hpiece]
      cases rest with
      | nil => rfl
      | cons next rest =>
        cases next with
        | literal more => exact absurd (hnext _ rfl) id
        | placeholder expression => rfl

/-- **The lists of pieces that texts have are exactly those that follow the rules.** The pieces of
every text follow them, and every list that does is found again in the text that is written for it,
with its placeholders between blanks and the runs of braces in its literals escaped. -/
theorem segments_wellFormed_and_rendered :
    (∀ text, WellFormed (segments text)) ∧
      ∀ pieces, WellFormed pieces → segments (render pieces) = pieces :=
  ⟨wellFormed_segments, fun _ => segments_render⟩

/-- Backslashes and braces in a literal, in an expression and at the end of a text. -/
def samplePieces : List Segment :=
  [.literal ['a', '\\', '{', '{', '{'], .placeholder ['{', '\\', '}'], .placeholder ['y'],
    .literal ['}', '{', '{', '}', '{']]

/-- The third brace of a run is written by itself, the others in pairs. -/
theorem segments_render_samplePieces :
    WellFormed samplePieces ∧
      render samplePieces = "a\\\x7b\\\x7b\x7b\x7b\x7b \x7b\\\x7d \x7d\x7d\x7b\x7b y \x7d\x7d\x7d\\\x7b\x7b\x7d\x7b".toList ∧
      segments (render samplePieces) = samplePieces := by
  have hpieces : WellFormed samplePieces := by decide
  refine ⟨hpieces, ?_, segments_wellFormed_and_rendered.2 samplePieces hpieces⟩
  simp [samplePieces, render, renderPiece, writeLiteral, writeBraces]

end Template

end Runbook
