import Mathlib.Data.String.Basic
import Mathlib.Tactic.Tauto
import Runbook.CommandLine.Words
import Runbook.Proofs.Outcome

/-! # Reading a command line piece by piece

Outside quotes a command line is made of pieces: a blank, a character that stands for itself, a
backslash with the character behind it, or a pair of quotes with what they enclose. What a piece does
to the word in front of it does not depend on what stands behind it, so a line is read piece by piece
until nothing is left, or until what is left can be no piece.

* **`CommandLine.Reads`** — what a text does to the word in front of it, whatever stands behind it;
  `Reads.trans` puts two texts together.
* **`CommandLine.units`** — what stands behind a double quote, cut into characters and escapes.
* **`CommandLine.Unclosed`** — a quote that nothing behind it closes.
* **`CommandLine.exists_piece`**, **`CommandLine.exists_reading`** — one step of reading a line, and the
  whole way to its `Ending`.
* **`CommandLine.exists_reads_of_eq_ok`** — a line with words is read to its end.
* **`CommandLine.isBlankText_of_split_eq_nil`** — a line without words is blank. -/

namespace Runbook.CommandLine

open Text (isBlank)

variable {word middle left : Option (List Char)} {first second text inside contents : List Char}
  {finished finished' words : List (List Char)} {position : Nat} {c quote : Char}

/-! ## Texts that are read to their end -/

/-- **A text that is read to its end.** A line that goes on with `word` finishes some words within the
text and goes on with `left` behind it, whatever stands there. -/
def Reads (word : Option (List Char)) (text : List Char) (finished : List (List Char))
    (left : Option (List Char)) : Prop :=
  ∀ (position : Nat) (rest : List Char), splitPlain word position (text ++ rest) =
    (splitPlain left (position + String.utf8Len text) rest).map (finished ++ ·)

/-- Putting no words in front changes nothing. -/
theorem map_nil_append (result : Except SplitError (List (List Char))) :
    result.map ([] ++ ·) = result := by
  cases result <;> rfl

/-- Words are put in front in one go or in two. -/
theorem map_append_append (result : Except SplitError (List (List Char))) :
    (result.map (finished' ++ ·)).map (finished ++ ·) = result.map (finished ++ finished' ++ ·) := by
  cases result <;> simp [Except.map]

/-- A text that finishes no word only changes the word that the line goes on with. -/
theorem reads_of_splitPlain (h : ∀ position rest, splitPlain word position (text ++ rest) =
    splitPlain left (position + String.utf8Len text) rest) : Reads word text [] left := by
  intro position rest
  rw [h, map_nil_append]

/-- The empty text does nothing. -/
theorem reads_nil : Reads word [] [] word :=
  reads_of_splitPlain fun _ _ => rfl

/-- **Two texts are read one after the other.** -/
theorem Reads.trans (hfirst : Reads word first finished middle)
    (hsecond : Reads middle second finished' left) :
    Reads word (first ++ second) (finished ++ finished') left := by
  intro position rest
  rw [List.append_assoc, hfirst, hsecond, map_append_append, String.utf8Len_append, Nat.add_assoc]

/-- The words of a line that is read to its end. -/
theorem Reads.splitPlain_eq (h : Reads word text finished left) (position : Nat) :
    splitPlain word position text = .ok (finished ++ finish left) := by
  have hend := h position []
  rw [List.append_nil] at hend
  rw [hend]
  rfl

/-! ## Pieces without quotes -/

-- A character that is known decides its row by computation; only an unknown one needs the rows to be
-- told apart (`splitPlain_cons`).

theorem splitPlain_escape (word : Option (List Char)) (position : Nat) (c : Char)
    (rest : List Char) : splitPlain word position ('\\' :: c :: rest) =
      if c = '\n' then splitPlain word (position + 2) rest
      else splitPlain (extend word c) (position + 1 + c.utf8Size) rest := rfl

theorem splitPlain_single (word : Option (List Char)) (position : Nat) (rest : List Char) :
    splitPlain word position ('\'' :: rest) =
      splitSingle (word.getD []) position (position + 1) rest := rfl

theorem splitPlain_double (word : Option (List Char)) (position : Nat) (rest : List Char) :
    splitPlain word position ('"' :: rest) =
      splitDouble (word.getD []) position (position + 1) rest := rfl

/-- A blank is none of the characters with a meaning of their own. -/
theorem ne_of_isBlank (h : isBlank c = true) : c ≠ '\\' ∧ c ≠ '\'' ∧ c ≠ '"' := by
  refine ⟨?_, ?_, ?_⟩ <;> rintro rfl <;> exact absurd h (by decide)

/-- What becomes of a character that is no backslash and no quote. -/
theorem splitPlain_cons (hescape : c ≠ '\\') (hsingle : c ≠ '\'') (hdouble : c ≠ '"')
    (word : Option (List Char)) (position : Nat) (rest : List Char) :
    splitPlain word position (c :: rest) =
      if isBlank c then (splitPlain none (position + c.utf8Size) rest).map (finish word ++ ·)
      else splitPlain (extend word c) (position + c.utf8Size) rest := by
  rw [splitPlain.eq_def]
  split
  case h_1 => contradiction
  case h_2 h => exact absurd (List.cons.inj h).1 hescape
  case h_3 h => exact absurd (List.cons.inj h).1 hescape
  case h_4 h => exact absurd (List.cons.inj h).1 hsingle
  case h_5 h => exact absurd (List.cons.inj h).1 hdouble
  case h_6 h =>
    obtain ⟨rfl, rfl⟩ := List.cons.inj h
    rfl

/-- The bytes of a single character. -/
theorem utf8Len_singleton (c : Char) : String.utf8Len [c] = c.utf8Size := by
  rw [String.utf8Len_cons, String.utf8Len_nil, Nat.zero_add]

/-- A blank finishes the word in front of it. -/
theorem reads_blank (h : isBlank c = true) : Reads word [c] (finish word) none := by
  intro position rest
  obtain ⟨hescape, hsingle, hdouble⟩ := ne_of_isBlank h
  rw [List.singleton_append, splitPlain_cons hescape hsingle hdouble, if_pos h, utf8Len_singleton]

/-- A character without a meaning of its own joins the word in front of it. -/
theorem reads_plain (hescape : c ≠ '\\') (hsingle : c ≠ '\'') (hdouble : c ≠ '"')
    (hblank : ¬ isBlank c = true) : Reads word [c] [] (extend word c) := by
  refine reads_of_splitPlain fun position rest => ?_
  rw [List.singleton_append, splitPlain_cons hescape hsingle hdouble, if_neg hblank,
    utf8Len_singleton]

/-- A character behind a backslash joins the word in front of it. -/
theorem reads_escaped (h : c ≠ '\n') : Reads word ['\\', c] [] (extend word c) := by
  refine reads_of_splitPlain fun position rest => ?_
  have hsize : String.utf8Len ['\\', c] = 1 + c.utf8Size := by
    rw [String.utf8Len_cons, utf8Len_singleton, Nat.add_comm]
    rfl
  rw [hsize, ← Nat.add_assoc, List.cons_append, List.singleton_append, splitPlain_escape, if_neg h]

/-- A backslash vanishes together with a line feed. -/
theorem reads_continuation : Reads word ['\\', '\n'] [] word := by
  refine reads_of_splitPlain fun position rest => ?_
  rw [List.cons_append, List.singleton_append, splitPlain_escape, if_pos rfl]
  rfl

/-! ## Single quotes -/

/-- What stands in front of a single quote is kept as it is. -/
theorem splitSingle_append (h : '\'' ∉ inside) (word : List Char) (start position : Nat)
    (rest : List Char) : splitSingle word start position (inside ++ '\'' :: rest) =
      splitPlain (some (inside.reverse ++ word)) (position + String.utf8Len inside + 1) rest := by
  induction inside generalizing word position with
  | nil => simp [splitSingle]
  | cons c inside ih =>
    rw [List.mem_cons, not_or] at h
    obtain ⟨hc, hinside⟩ := h
    rw [List.cons_append, splitSingle, if_neg (Ne.symm hc), ih hinside, List.reverse_cons,
      List.append_assoc, List.singleton_append, String.utf8Len_cons]
    congr 1
    omega

/-- Without a further single quote the first one stays open. -/
theorem splitSingle_eq_error (h : '\'' ∉ text) (word : List Char) (start position : Nat) :
    splitSingle word start position text = .error (.unterminatedQuote '\'' start) := by
  induction text generalizing word position with
  | nil => rw [splitSingle]
  | cons c text ih =>
    rw [List.mem_cons, not_or] at h
    obtain ⟨hc, htext⟩ := h
    rw [splitSingle, if_neg (Ne.symm hc), ih htext]

/-- The bytes of a text between two quotes. -/
theorem utf8Len_quoted (hquote : quote.utf8Size = 1) (inside : List Char) :
    String.utf8Len (quote :: (inside ++ [quote])) = 1 + String.utf8Len inside + 1 := by
  rw [String.utf8Len_cons, String.utf8Len_append, utf8Len_singleton, hquote]
  omega

/-- Single quotes with what they enclose join the word in front of them. -/
theorem reads_single (h : '\'' ∉ inside) :
    Reads word ('\'' :: (inside ++ ['\''])) [] (some (inside.reverse ++ word.getD [])) := by
  refine reads_of_splitPlain fun position rest => ?_
  rw [List.cons_append, List.append_assoc, List.singleton_append, splitPlain_single,
    splitSingle_append h, utf8Len_quoted rfl, ← Nat.add_assoc, ← Nat.add_assoc]

/-! ## Double quotes -/

/-- **The characters that a backslash escapes inside double quotes.** -/
def escapable : List Char := ['"', '\\', '$', '`', '\n']

/-- Of these a line feed vanishes, and the others are kept. -/
theorem mem_escapable_iff : c ∈ escapable ↔ c = '\n' ∨ isQuotable c = true := by
  simp only [escapable, isQuotable, List.mem_cons, List.not_mem_nil, Bool.or_eq_true, beq_iff_eq]
  tauto

/-- **What stands behind a double quote, read from left to right**: a backslash makes one unit with
the character that it escapes, and any other character is a unit of its own. -/
def units : List Char → List (List Char)
  | [] => []
  | '\\' :: c :: rest =>
    if c ∈ escapable then ['\\', c] :: units rest else ['\\'] :: units (c :: rest)
  | c :: rest => [c] :: units rest

/-- A double quote among the units of a text is one of its characters. -/
theorem mem_of_mem_units (h : ['"'] ∈ units text) : '"' ∈ text := by
  fun_induction units text with
  | case1 => exact absurd h List.not_mem_nil
  | case2 c rest _ ih => exact List.mem_cons_of_mem _ (List.mem_cons_of_mem _ (ih (by simpa using h)))
  | case3 c rest _ ih => exact List.mem_cons_of_mem _ (ih (by simpa using h))
  | case4 c rest _ ih =>
    rcases List.mem_cons.mp h with hc | hrest
    · exact (List.singleton_inj.mp hc) ▸ List.mem_cons_self
    · exact List.mem_cons_of_mem _ (ih hrest)

/-- What is appended to a text does not make a unit of a double quote in it. -/
theorem mem_units_append {more : List Char} (h : ['"'] ∈ units (text ++ more)) :
    ['"'] ∈ units text ∨ '"' ∈ more := by
  fun_induction units text with
  | case1 => exact .inr (mem_of_mem_units h)
  | case2 c rest hc ih =>
    rw [List.cons_append, List.cons_append, units, if_pos hc] at h
    simpa using ih (by simpa using h)
  | case3 c rest hc ih =>
    rw [List.cons_append, List.cons_append, units, if_neg hc] at h
    simpa using ih (by simpa using h)
  | case4 c rest hescape ih =>
    by_cases hc : c = '\\'
    · -- The backslash ends the text, so that only what is appended can hold the quote.
      cases rest with
      | nil =>
        subst hc
        exact .inr (by simpa using mem_of_mem_units h)
      | cons d rest => exact (hescape d rest hc rfl).elim
    · rw [List.cons_append, units] at h
      · rcases List.mem_cons.mp h with hquote | hrest
        · exact .inl (hquote ▸ List.mem_cons_self)
        · exact (ih hrest).imp_left (List.mem_cons_of_mem _)
      · exact fun _ _ hescape _ => hc hescape

/-- **What double quotes enclose**, and what it stands for: behind it and a closing quote, a line goes
on with the contents in its word. -/
def Encloses (inside contents : List Char) : Prop :=
  ∀ (word : List Char) (start position : Nat) (rest : List Char),
    splitDouble word start position (inside ++ '"' :: rest) =
      splitPlain (some (contents.reverse ++ word)) (position + String.utf8Len inside + 1) rest

/-- An empty pair of quotes. -/
theorem encloses_nil : Encloses [] [] := by
  intro word start position rest
  rw [List.nil_append, splitDouble]
  rfl

/-- What becomes of a character inside double quotes that neither closes them nor is a backslash in
front of another character. -/
theorem splitDouble_cons {rest : List Char} (hquote : c ≠ '"')
    (hescape : ∀ d more, c = '\\' → rest = d :: more → False) (word : List Char)
    (start position : Nat) : splitDouble word start position (c :: rest) =
      splitDouble (c :: word) start (position + c.utf8Size) rest := by
  rw [splitDouble]
  · exact hquote
  · exact hescape

/-- **One more unit in front** of what quotes enclose adds what it stands for. -/
theorem Encloses.unit (h : Encloses inside contents) (unit meaning : List Char)
    (hunit : ∀ word start position rest,
      splitDouble word start position (unit ++ (inside ++ '"' :: rest)) =
        splitDouble (meaning.reverse ++ word) start (position + String.utf8Len unit)
          (inside ++ '"' :: rest)) :
    Encloses (unit ++ inside) (meaning ++ contents) := by
  intro word start position rest
  rw [List.append_assoc, hunit, h, List.reverse_append, List.append_assoc, String.utf8Len_append,
    ← Nat.add_assoc]

/-- A character without a meaning of its own stands for itself. -/
theorem Encloses.plain (h : Encloses inside contents) (hquote : c ≠ '"') (hescape : c ≠ '\\') :
    Encloses (c :: inside) (c :: contents) := by
  refine h.unit [c] [c] fun word start position rest => ?_
  rw [List.singleton_append, splitDouble_cons hquote fun _ _ hc _ => hescape hc, utf8Len_singleton]
  rfl

/-- A backslash takes the meaning of a character away. -/
theorem Encloses.escaped (h : Encloses inside contents) (hc : isQuotable c = true) :
    Encloses ('\\' :: c :: inside) (c :: contents) := by
  refine h.unit ['\\', c] [c] fun word start position rest => ?_
  simp only [isQuotable, Bool.or_eq_true, beq_iff_eq] at hc
  obtain ((rfl | rfl) | rfl) | rfl := hc <;> rfl

/-- A backslash vanishes together with a line feed. -/
theorem Encloses.continuation (h : Encloses inside contents) :
    Encloses ('\\' :: '\n' :: inside) contents :=
  h.unit ['\\', '\n'] [] fun _ _ _ _ => rfl

/-- In front of any other character a backslash stands for itself. -/
theorem Encloses.backslash (h : Encloses (c :: inside) contents) (hc : c ∉ escapable) :
    Encloses ('\\' :: c :: inside) ('\\' :: contents) := by
  refine h.unit ['\\'] ['\\'] fun word start position rest => ?_
  rw [mem_escapable_iff, not_or] at hc
  rw [List.singleton_append, List.cons_append, splitDouble, if_neg hc.1, if_neg hc.2]
  rfl

/-- **A text with a double quote among its units begins with what the quotes enclose.** -/
theorem exists_encloses (h : ['"'] ∈ units text) :
    ∃ inside contents rest, text = inside ++ '"' :: rest ∧ Encloses inside contents := by
  fun_induction units text with
  | case1 => exact absurd h List.not_mem_nil
  | case2 c rest hc ih =>
    obtain ⟨inside, contents, behind, rfl, hinside⟩ := ih (by simpa using h)
    rcases mem_escapable_iff.mp hc with rfl | hquotable
    · exact ⟨_, _, behind, rfl, hinside.continuation⟩
    · exact ⟨_, _, behind, rfl, hinside.escaped hquotable⟩
  | case3 c rest hc ih =>
    obtain ⟨inside, contents, behind, heq, hinside⟩ := ih (by simpa using h)
    cases inside with
    | nil =>
      -- A quote behind a backslash would be a part of an escape.
      obtain ⟨rfl, -⟩ := List.cons.inj heq
      exact absurd (by decide) hc
    | cons d inside =>
      obtain ⟨rfl, rfl⟩ := List.cons.inj heq
      exact ⟨_, _, behind, rfl, hinside.backslash hc⟩
  | case4 c rest hescape ih =>
    by_cases hquote : c = '"'
    · subst hquote
      exact ⟨[], [], rest, rfl, encloses_nil⟩
    · obtain ⟨inside, contents, behind, rfl, hinside⟩ := ih (by simpa [Ne.symm hquote] using h)
      by_cases hc : c = '\\'
      · cases inside with
        | nil => exact (hescape _ _ hc rfl).elim
        | cons d inside => exact (hescape _ _ hc rfl).elim
      · exact ⟨_, _, behind, rfl, hinside.plain hquote hc⟩

/-- Without a double quote among the units behind it, a double quote stays open. -/
theorem splitDouble_eq_error (h : ['"'] ∉ units text) (word : List Char) (start position : Nat) :
    splitDouble word start position text = .error (.unterminatedQuote '"' start) := by
  fun_induction units text generalizing word position with
  | case1 => rw [splitDouble]
  | case2 c rest hc ih =>
    have hrest : ['"'] ∉ units rest := fun hmem => h (List.mem_cons_of_mem _ hmem)
    rcases mem_escapable_iff.mp hc with rfl | hquotable
    · rw [splitDouble, if_pos rfl, ih hrest]
    · have hbreak : c ≠ '\n' := by rintro rfl; exact absurd hquotable (by decide)
      rw [splitDouble, if_neg hbreak, if_pos hquotable, ih hrest]
  | case3 c rest hc ih =>
    have hrest : ['"'] ∉ units (c :: rest) := fun hmem => h (List.mem_cons_of_mem _ hmem)
    rw [mem_escapable_iff, not_or] at hc
    rw [splitDouble, if_neg hc.1, if_neg hc.2, ih hrest]
  | case4 c rest hescape ih =>
    have hrest : ['"'] ∉ units rest := fun hmem => h (List.mem_cons_of_mem _ hmem)
    have hquote : c ≠ '"' := by rintro rfl; exact h List.mem_cons_self
    rw [splitDouble_cons hquote hescape, ih hrest]

/-- Double quotes with what they enclose join the word in front of them. -/
theorem Encloses.reads (h : Encloses inside contents) :
    Reads word ('"' :: (inside ++ ['"'])) [] (some (contents.reverse ++ word.getD [])) := by
  refine reads_of_splitPlain fun position rest => ?_
  rw [List.cons_append, List.append_assoc, List.singleton_append, splitPlain_double, h,
    utf8Len_quoted rfl, ← Nat.add_assoc, ← Nat.add_assoc]

/-! ## Reading a line as far as it goes -/

/-- **A quote that nothing behind it closes.** Single quotes are closed by the next one, double quotes
by the next one that is not escaped. -/
def Unclosed (quote : Char) (behind : List Char) : Prop :=
  (quote = '\'' ∧ '\'' ∉ behind) ∨ (quote = '"' ∧ ['"'] ∉ units behind)

/-- A quote that stays open is reported where it stands. -/
theorem Unclosed.splitPlain_eq {behind : List Char} (h : Unclosed quote behind)
    (word : Option (List Char)) (position : Nat) :
    splitPlain word position (quote :: behind) = .error (.unterminatedQuote quote position) := by
  rcases h with ⟨rfl, hbehind⟩ | ⟨rfl, hbehind⟩
  · rw [splitPlain_single, splitSingle_eq_error hbehind]
  · rw [splitPlain_double, splitDouble_eq_error hbehind]

/-- **What is left of a line of which no further piece is read**: nothing, a backslash, or a quote that
stays open. -/
inductive Ending : List Char → Prop where
  /-- The line is complete. -/
  | complete : Ending []
  /-- A backslash has nothing to escape. -/
  | escape : Ending ['\\']
  /-- A quote stays open. -/
  | quote {quote : Char} {behind : List Char} (h : Unclosed quote behind) : Ending (quote :: behind)

/-- **One step.** A line at its ending has no further piece, and any other one begins with a piece
that is read whatever word stands in front of it. -/
theorem exists_piece (text : List Char) : Ending text ∨ ∃ piece rest, text = piece ++ rest ∧
    piece ≠ [] ∧ ∀ word, ∃ finished left, Reads word piece finished left := by
  cases text with
  | nil => exact .inl .complete
  | cons c rest =>
    by_cases hescape : c = '\\'
    · subst hescape
      cases rest with
      | nil => exact .inl .escape
      | cons d rest =>
        refine .inr ⟨['\\', d], rest, rfl, by simp, fun word => ?_⟩
        by_cases hbreak : d = '\n'
        · subst hbreak
          exact ⟨_, _, reads_continuation⟩
        · exact ⟨_, _, reads_escaped hbreak⟩
    by_cases hsingle : c = '\''
    · subst hsingle
      by_cases hclosed : '\'' ∈ rest
      · obtain ⟨inside, behind, rfl, hinside⟩ := List.eq_append_cons_of_mem hclosed
        exact .inr ⟨'\'' :: (inside ++ ['\'']), behind, by simp, by simp,
          fun word => ⟨_, _, reads_single hinside⟩⟩
      · exact .inl (.quote (.inl ⟨rfl, hclosed⟩))
    by_cases hdouble : c = '"'
    · subst hdouble
      by_cases hclosed : ['"'] ∈ units rest
      · obtain ⟨inside, contents, behind, rfl, hinside⟩ := exists_encloses hclosed
        exact .inr ⟨'"' :: (inside ++ ['"']), behind, by simp, by simp,
          fun word => ⟨_, _, hinside.reads⟩⟩
      · exact .inl (.quote (.inr ⟨rfl, hclosed⟩))
    refine .inr ⟨[c], rest, rfl, by simp, fun word => ?_⟩
    by_cases hblank : isBlank c = true
    · exact ⟨_, _, reads_blank hblank⟩
    · exact ⟨_, _, reads_plain hescape hsingle hdouble hblank⟩

/-- **The whole way.** Every line is read up to its ending. -/
theorem exists_reading (word : Option (List Char)) (text : List Char) :
    ∃ front ending finished left,
      text = front ++ ending ∧ Reads word front finished left ∧ Ending ending := by
  -- On the length of the line, since a piece takes an unknown part of it; the word it goes on with
  -- is another one behind each piece.
  induction hlength : text.length using Nat.strong_induction_on generalizing word text with
  | _ length ih =>
    rcases exists_piece text with hending | ⟨piece, rest, rfl, hpiece, hreads⟩
    · exact ⟨[], text, [], word, rfl, reads_nil, hending⟩
    · obtain ⟨finished, middle, hfirst⟩ := hreads word
      have hshorter : rest.length < length := by
        have := List.length_pos_of_ne_nil hpiece
        rw [List.length_append] at hlength
        omega
      obtain ⟨front, ending, finished', left, rfl, hsecond, hending⟩ :=
        ih _ hshorter middle rest rfl
      exact ⟨piece ++ front, ending, _, left, (List.append_assoc ..).symm, hfirst.trans hsecond,
        hending⟩

/-- A backslash with nothing to escape is reported behind what was read. -/
theorem Reads.splitPlain_append_escape (h : Reads word text finished left) (position : Nat) :
    splitPlain word position (text ++ ['\\']) = .error .trailingEscape := by
  rw [h]
  rfl

/-- A quote that stays open is reported behind what was read. -/
theorem Reads.splitPlain_append_unclosed {behind : List Char} (h : Reads word text finished left)
    (hquote : Unclosed quote behind) (position : Nat) :
    splitPlain word position (text ++ quote :: behind) =
      .error (.unterminatedQuote quote (position + String.utf8Len text)) := by
  rw [h, hquote.splitPlain_eq]
  rfl

/-- **A line with words is read to its end.** -/
theorem exists_reads_of_eq_ok (h : splitPlain word position text = .ok words) :
    ∃ finished left, Reads word text finished left ∧ words = finished ++ finish left := by
  obtain ⟨front, ending, finished, left, rfl, hreads, hending⟩ := exists_reading word text
  cases hending with
  | complete =>
    rw [List.append_nil] at h ⊢
    rw [hreads.splitPlain_eq] at h
    exact ⟨finished, left, hreads, (Except.ok.inj h).symm⟩
  | escape => rw [hreads.splitPlain_append_escape] at h; contradiction
  | quote hquote => rw [hreads.splitPlain_append_unclosed hquote] at h; contradiction

/-! ## Lines without words -/

theorem finish_eq_nil_iff {word : Option (List Char)} : finish word = [] ↔ word = none := by
  cases word <;> simp [finish]

/-- A line that comes to no words at all is blank and goes on with no word, unless there is a line feed
in it, which a backslash may take away. Inside quotes there always is a word. -/
theorem blank_of_splitPlain :
    (∀ (word : Option (List Char)) (position : Nat) (text : List Char),
        splitPlain word position text = .ok [] →
          word = none ∧ ('\n' ∈ text ∨ ∀ c ∈ text, isBlank c = true)) ∧
      (∀ (word : List Char) (start position : Nat) (text : List Char),
        splitDouble word start position text ≠ .ok []) ∧
      ∀ (word : List Char) (start position : Nat) (text : List Char),
        splitSingle word start position text ≠ .ok [] := by
  apply splitPlain.mutual_induct
  case case1 =>
    rintro (_ | word) position h
    · exact ⟨rfl, .inr fun c hc => absurd hc List.not_mem_nil⟩
    · cases h
  case case2 =>
    intro word position h
    cases h
  case case3 =>
    intro word position rest ih h
    rw [splitPlain_escape, if_pos rfl] at h
    exact ⟨(ih h).1, .inl (by simp)⟩
  case case4 =>
    intro word position c rest hc ih h
    rw [splitPlain_escape, if_neg hc] at h
    cases (ih h).1
  case case5 =>
    intro word position rest ih h
    exact absurd h ih
  case case6 =>
    intro word position rest ih h
    exact absurd h ih
  case case7 =>
    intro word position c rest _ _ hsingle hdouble hblank ih h
    have hescape := (ne_of_isBlank hblank).1
    rw [splitPlain_cons hescape hsingle hdouble, if_pos hblank, map_eq_ok_iff] at h
    obtain ⟨words, hwords, hnil⟩ := h
    obtain ⟨hword, rfl⟩ := List.append_eq_nil_iff.mp hnil
    refine ⟨finish_eq_nil_iff.mp hword, (ih hwords).2.imp (List.mem_cons_of_mem c) fun hrest => ?_⟩
    exact List.forall_mem_cons.mpr ⟨hblank, hrest⟩
  case case8 =>
    intro word position c rest hlast hescape hsingle hdouble hblank ih h
    have hplain : c ≠ '\\' := by
      rintro rfl
      cases rest with
      | nil => exact hlast rfl rfl
      | cons d more => exact hescape d more rfl rfl
    rw [splitPlain_cons hplain hsingle hdouble, if_neg hblank] at h
    cases (ih h).1
  -- inside quotes there is a word, which the line goes on with
  case case9 | case15 =>
    intro word start position h
    cases h
  case case10 | case16 =>
    intro word start position rest ih h
    cases (ih h).1
  case case11 =>
    intro word start position rest ih
    rwa [splitDouble, if_pos rfl]
  case case12 =>
    intro word start position c rest hbreak hquotable ih
    rwa [splitDouble, if_neg hbreak, if_pos hquotable]
  case case13 =>
    intro word start position c rest hbreak hquotable ih
    rwa [splitDouble, if_neg hbreak, if_neg hquotable]
  case case14 =>
    intro word start position c rest hquote hescape ih
    rwa [splitDouble_cons hquote hescape]
  case case17 =>
    intro word start position c rest hclosed ih
    rwa [splitSingle, if_neg hclosed]

/-! ## Lines as strings -/

/-- Strings and their characters are split alike. -/
theorem split_eq_ok_iff {line : String} {words : List String} :
    split line = .ok words ↔ splitText line.toList = .ok (words.map String.toList) := by
  rw [split, map_eq_ok_iff]
  constructor
  · rintro ⟨texts, htexts, rfl⟩
    simp [htexts, Function.comp_def]
  · intro h
    exact ⟨_, h, by simp [Function.comp_def]⟩

/-- Strings and their characters fail to be split alike. -/
theorem split_eq_error_iff {line : String} {error : SplitError} :
    split line = .error error ↔ splitText line.toList = .error error := by
  rw [← errorOf?_eq_some_iff, ← errorOf?_eq_some_iff, split, errorOf?_map]

/-- The words of a line are those that it finishes and the one that it leaves. -/
theorem exists_reads_of_split {line : String} {words : List String} (h : split line = .ok words) :
    ∃ finished left, Reads none line.toList finished left ∧
      words.map String.toList = finished ++ finish left :=
  exists_reads_of_eq_ok (split_eq_ok_iff.mp h)

/-- A line that is read to its end has words. -/
theorem Reads.split_eq {line : String} {words : List String}
    (h : Reads none line.toList finished left)
    (hwords : words.map String.toList = finished ++ finish left) : split line = .ok words := by
  rw [split_eq_ok_iff, hwords]
  exact h.splitPlain_eq 0

/-- A line without a line feed has words unless it is blank. -/
theorem isBlankText_of_split_eq_nil {line : String} (h : split line = .ok [])
    (hbreak : '\n' ∉ line.toList) : Text.isBlankText line = true := by
  obtain ⟨-, hfeed | hblank⟩ := blank_of_splitPlain.1 none 0 line.toList (split_eq_ok_iff.mp h)
  · exact absurd hfeed hbreak
  · exact List.all_eq_true.mpr hblank

end Runbook.CommandLine
