import Runbook.Shell.Source

/-! # Words and tokens of a script

Commands stand within words where their output is put in; how those are read is a parameter here.

* **`Surrounding`** — where a part of a word stands, which says what ends it and what is quoted.
* **`Lexer.readParts`** — the parts of a word up to the end of its surrounding.
* **`Lexer.readDocuments`** — the here-documents that have been announced.
* **`Lexer.token`** — the next token. -/

namespace Runbook.Shell

/-- What ends a part of a word. -/
inductive Closing where
  /-- The end of the word. -/
  | word
  /-- A double quote. -/
  | quote
  /-- A brace. -/
  | brace
  /-- Two parentheses. -/
  | arithmetic
  /-- The last line of a here-document. -/
  | document
  deriving DecidableEq, Repr

/-- Where a part of a word stands. -/
structure Surrounding where
  /-- What ends it. -/
  closing : Closing
  /-- Whether it is quoted. -/
  quoted : Bool
  /-- Whether it stands between braces. -/
  braced : Bool
  /-- The here-document that it stands in. -/
  document : Option Announcement
  /-- Whether nothing is expanded. -/
  verbatim : Bool

namespace Surrounding

/-- Outside of everything. -/
def bare : Surrounding := ⟨.word, false, false, none, false⟩

/-- Whether a character ends a word. -/
def endsWord (c : Char) : Bool := " \t\n;&|<>()".toList.contains c

/-- Whether a backslash takes the meaning of a character away, or else stands for itself. -/
def escapes (here : Surrounding) (c : Char) : Bool :=
  !here.quoted || c == '\\' || c == '$' || c == Char.ofNat 96
    || (c == '"' && (here.document.isNone || here.braced)) || (c == '}' && here.braced)

/-- The error of a surrounding that is not closed. -/
def openError (here : Surrounding) : SyntaxError :=
  match here.closing with
  | .arithmetic => .openArithmetic
  | _ => if here.quoted && here.document.isNone then .openQuote else .openBrace

end Surrounding

namespace Lexer

/-- The quote that runs a command. -/
def backquote : Char := Char.ofNat 96

/-- Adds a text behind the parts of a word, which are in reverse. -/
def addText (text : String) (quoted : Bool) : Word → Word
  | .text before sameQuoted :: parts =>
    if quoted == sameQuoted then .text (before ++ text) quoted :: parts
    else .text text quoted :: .text before sameQuoted :: parts
  | parts => .text text quoted :: parts

/-- Adds a character behind the parts of a word, which are in reverse. -/
def addChar (c : Char) (quoted : Bool) (found : Word) : Word :=
  addText (String.singleton c) quoted found

/-- Passes over the last line of a here-document if it stands here. Tabs at the start of a line may
not count. -/
def acceptMark (document : Announcement) : Parse Bool := do
  if document.stripped then
    modify fun source => { source with rest := source.rest.dropWhile (· == '\t') }
  let rest := (← get).rest
  let mark := document.mark.toList
  if mark.isPrefixOf rest then
    match rest.drop mark.length with
    | [] => do
      modify fun source => { source with rest := [] }
      pure true
    | '\n' :: rest => do
      modify fun source => { source with rest, line := source.line + 1 }
      pure true
    | _ => pure false
  else pure false

/-- The text up to a single quote that closes. -/
def readSingle (here : Surrounding) : (fuel : Nat) → (found : List Char) → Parse (List Char)
  | 0, _ => Parse.fail .tooDeep
  | fuel + 1, found => do
    match ← Parse.peek? with
    | none => Parse.fail (if here.document.isNone then .openQuote else .openBrace)
    | some c => do
      Parse.skip
      if c == '\'' then pure found.reverse else readSingle here fuel (c :: found)

/-- The text up to a backquote that closes, in which a backslash stands before some characters. -/
def readBackquoted (quoted : Bool) : (fuel : Nat) → (found : List Char) → Parse (List Char)
  | 0, _ => Parse.fail .tooDeep
  | fuel + 1, found => do
    match ← Parse.peekJoined? with
    | none => Parse.fail .openBackquote
    | some c => do
      Parse.skip
      if c == backquote then pure found.reverse
      else if c == '\\' then
        match ← Parse.peek? with
        | none => readBackquoted quoted fuel (c :: found)
        | some d => do
          Parse.skip
          let escaped := d == '\\' || d == backquote || d == '$' || (quoted && d == '"')
          readBackquoted quoted fuel (if escaped then d :: found else d :: c :: found)
      else readBackquoted quoted fuel (c :: found)

/-- Reads with another text, of which nothing is left behind. -/
def within {α : Type} (text : List Char) (body : Parse α) : Parse α := do
  let outer ← get
  set { outer with rest := text, line := 1, returned := none, announced := [], openAliases := [] }
  let result ← body
  modify fun inner =>
    { outer with documents := inner.documents }
  pure result

/-- Whether a character is the name of a parameter by itself. -/
def isSpecial (c : Char) : Bool := "$#?!-*@".toList.contains c || c.isDigit

/-- Whether a character may begin the name of a variable. -/
def isNameStart (c : Char) : Bool := c.isAlpha || c == '_'

/-- The name of a parameter behind an opening brace, and whether its length is asked for. There is
none where no name stands. -/
def readBracedName (size : Nat) : Parse (Option (String × Bool)) := do
  let start ← get
  match ← Parse.peekJoined? with
  | none => pure none
  | some c =>
    if isNameStart c then
      pure (some (String.ofList (← Parse.takeWhile Text.isNameChar size), false))
    else if c.isDigit then
      pure (some (String.ofList (← Parse.takeWhile Char.isDigit size), false))
    else if c == '#' then do
      Parse.skip
      match ← Parse.peekJoined? with
      | none => pure (some ("#", false))
      | some d =>
        if isNameStart d then
          pure (some (String.ofList (← Parse.takeWhile Text.isNameChar size), true))
        else if d.isDigit then
          pure (some (String.ofList (← Parse.takeWhile Char.isDigit size), true))
        else do
          -- a mark of length needs a parameter and the closing brace right behind it
          let before ← get
          Parse.skip
          if d != '}' && (← Parse.peekJoined?) == some '}' then
            pure (if isSpecial d then some (String.singleton d, true) else none)
          else do
            set before
            pure (some ("#", false))
    else if isSpecial c then do
      Parse.skip
      pure (some (String.singleton c, false))
    else do
      set start
      pure none

/-- What is done with the value of a parameter between braces, apart from the word that follows. -/
inductive BraceOperator where
  /-- The brace is closed. -/
  | closed
  /-- A word follows, of which the change is made; a pattern stands outside all quotes. -/
  | change (pattern : Bool) (change : Word → ParameterChange)

/-- The operator behind the name of a parameter between braces. -/
def readOperator : Parse BraceOperator := do
  let known (orEmpty : Bool) (c : Char) : Option BraceOperator :=
    match c with
    | '-' => some (.change false (.otherwise orEmpty))
    | '+' => some (.change false (.instead orEmpty))
    | '?' => some (.change false (.demand orEmpty))
    | '=' => some (.change false (.assign orEmpty))
    | _ => none
  let unknown : BraceOperator := .change false fun _ => .unknown
  match ← Parse.peekJoined? with
  | none => pure unknown
  | some c => do
    Parse.skip
    if c == ':' then
      match ← Parse.peekJoined? with
      | none => pure unknown
      | some d => do
        Parse.skip
        -- this brace is no end: a word follows as behind other marks
        pure (if d == '}' then .change false .before else (known true d).getD unknown)
    else if c == '%' || c == '#' then do
      let longest ← Parse.accept c
      pure (.change true (.cut (c == '#') longest))
    else if c == '}' then pure .closed
    else pure ((known false c).getD unknown)

/-- Finds what a script does between parentheses or backquotes. -/
structure Nested where
  /-- Reads commands up to a closing parenthesis, which is passed over. -/
  untilParenthesis : Parse (Option ShellCommand)
  /-- Reads commands as far as they go. -/
  whole : Parse (Option ShellCommand)

mutual

/-- The parts of a word up to the end of its surrounding, before which `found` stands in reverse;
`depth` parentheses are open in an arithmetic expression. -/
def readParts (nested : Nested) :
    (fuel : Nat) → Surrounding → (depth : Nat) → (found : Word) → Parse Word
  | 0, _, _, _ => Parse.fail .tooDeep
  | fuel + 1, here, depth, found => do
    match ← Parse.peek? with
    | none =>
      if here.closing = .word ∨ here.closing = .document then pure found.reverse
      else Parse.fail here.openError
    | some c =>
      if here.closing = .word && endsWord c then pure found.reverse
      else do
        Parse.skip
        if c == '\n' then
          let ended ← match here.document with
            | some document => acceptMark document
            | none => pure false
          let found := addChar c here.quoted found
          if ended then
            if here.closing = .document then pure found.reverse else Parse.fail here.openError
          else readParts nested fuel here depth found
        else if c == '\\' then
          match ← Parse.peek? with
          | none => readParts nested fuel here depth (addText "\\" true found)
          | some d => do
            Parse.skip
            if d == '\n' then readParts nested fuel here depth found
            else
              let text := if here.escapes d then String.singleton d else "\\" ++ String.singleton d
              readParts nested fuel here depth (addText text true found)
        else if c == '\'' && !here.quoted then
          let inside ← readSingle here ((← get).rest.length + 1) []
          readParts nested fuel here depth (addText (String.ofList inside) true found)
        else if c == '"' then
          match here.closing with
          | .quote => pure found.reverse
          | .arithmetic | .document => readParts nested fuel here depth (addChar c true found)
          | .word | .brace => do
            let inside ← readParts nested fuel { here with closing := .quote, quoted := true } 0 []
            -- quotes make a word even if it is empty, but not around all arguments alone
            let marked := match here.document, inside with
              | some _, _ | none, [.parameter "@" .none true] => found
              | none, _ => addText "" true found
            readParts nested fuel here depth (inside.foldl addPart marked)
        else if c == backquote then
          if here.verbatim then readParts nested fuel here depth (addChar c false found)
          else
            let text ← readBackquoted here.quoted ((← get).rest.length + 1) []
            let command ← within text nested.whole
            readParts nested fuel here depth (.output command here.quoted :: found)
        else if c == '$' then
          if here.verbatim then readParts nested fuel here depth (addChar c false found)
          else
            match ← readDollar nested fuel here with
            | some part => readParts nested fuel here depth (part :: found)
            | none => readParts nested fuel here depth (addChar c here.quoted found)
        else if c == '}' && here.closing = .brace then pure found.reverse
        else if c == '(' && here.closing = .arithmetic then
          readParts nested fuel here (depth + 1) (addChar c true found)
        else if c == ')' && here.closing = .arithmetic then
          match depth with
          | 0 =>
            if (← Parse.peek?) == some ')' then do
              Parse.skip
              pure found.reverse
            else readParts nested fuel here 0 (addChar c true found)
          | depth + 1 => readParts nested fuel here depth (addChar c true found)
        else readParts nested fuel here depth (addChar c here.quoted found)
where
  /-- Whether a character ends a word. -/
  endsWord (c : Char) : Bool := Surrounding.endsWord c
  /-- Adds a part behind the parts of a word, which are in reverse. -/
  addPart (found : Word) (part : WordPart) : Word :=
    match part with
    | .text text quoted => addText text quoted found
    | part => part :: found

/-- What a dollar that has been passed and the text behind it stand for, if for anything. -/
def readDollar (nested : Nested) : (fuel : Nat) → Surrounding → Parse (Option WordPart)
  | 0, _ => Parse.fail .tooDeep
  | fuel + 1, here => do
    match ← Parse.peekJoined? with
    | none => pure none
    | some c =>
      if c == '(' then do
        Parse.skip
        if ← Parse.accept '(' then do
          let inside ← readParts nested fuel
            { here with closing := .arithmetic, quoted := true, braced := false } 0 []
          pure (some (.arithmetic inside here.quoted))
        else do
          let outer ← get
          set { outer with announced := [], returned := none }
          let command ← nested.untilParenthesis
          modify fun inner => { inner with announced := outer.announced }
          pure (some (.output command here.quoted))
      else if c == '{' then do
        Parse.skip
        let size := (← get).rest.length + 1
        let finish (name : String) (change : ParameterChange) : Parse (Option WordPart) :=
          pure (some (.parameter name change here.quoted))
        let word (pattern : Bool) : Parse Word :=
          readParts nested fuel
            { here with
              closing := .brace, braced := true, quoted := here.quoted && !pattern } 0 []
        match ← readBracedName size with
        | none => do
          let _ ← word false
          finish "" .unknown
        | some (name, true) => do
          let rest ← word false
          finish name (if rest.isEmpty then .length else .unknown)
        | some (name, false) => do
          match ← readOperator with
          | .closed => finish name .none
          | .change pattern change => do
            let inside ← word pattern
            finish name (change inside)
      else if isNameStart c then do
        let name ← Parse.takeWhile Text.isNameChar ((← get).rest.length + 1)
        pure (some (.parameter (String.ofList name) .none here.quoted))
      else if isSpecial c then do
        Parse.skip
        pure (some (.parameter (String.singleton c) .none here.quoted))
      else pure none

end

/-! ### Here-documents -/

/-- The lines of a here-document in which nothing is expanded. -/
def readVerbatim (document : Announcement) : (fuel : Nat) → (found : List Char) →
    Parse (List Char)
  | 0, _ => Parse.fail .tooDeep
  | fuel + 1, found => do
    if ← acceptMark document then pure found.reverse
    else
      let source ← get
      let line := source.rest.takeWhile (· != '\n')
      match source.rest.drop line.length with
      | [] => do
        set { source with rest := [] }
        pure (found.reverse ++ line)
      | _ :: rest => do
        set { source with rest, line := source.line + 1 }
        readVerbatim document fuel ('\n' :: (line.reverse ++ found))

/-- Reads one here-document. -/
def readDocument (nested : Nested) (document : Announcement) : Parse Word := do
  let size := (← get).rest.length
  if document.quoted then
    let text ← readVerbatim document (size + 1) []
    pure [.text (String.ofList text) true]
  else if ← acceptMark document then pure []
  else readParts nested (2 * size + 8) ⟨.document, true, false, some document, false⟩ 0 []

/-- Reads the here-documents that have been announced. -/
def readDocuments (nested : Nested) : Parse Unit := do
  let announced := (← get).announced
  modify fun source => { source with announced := [] }
  announced.forM fun document => do
    let word ← readDocument nested document
    modify fun source =>
      { source with documents := source.documents.setIfInBounds document.number word }

/-! ### Tokens -/

/-- The redirection whose first character has been passed. -/
def readRedirection (descriptor : Option Nat) (first : Char) : Parse Token := do
  if first == '>' then
    if ← Parse.accept '>' then pure (.redirection descriptor ">>")
    else if ← Parse.accept '|' then pure (.redirection descriptor ">|")
    else if ← Parse.accept '&' then pure (.redirection descriptor ">&")
    else pure (.redirection descriptor ">")
  else if ← Parse.accept '<' then
    if ← Parse.accept '-' then pure (.redirection descriptor "<<-")
    else pure (.redirection descriptor "<<")
  else if ← Parse.accept '&' then pure (.redirection descriptor "<&")
  else if ← Parse.accept '>' then pure (.redirection descriptor "<>")
  else pure (.redirection descriptor "<")

/-- The word or the redirection that stands here. -/
def readWord (nested : Nested) (verbatim : Bool) : Parse Token := do
  let size := (← get).rest.length
  let parts ← readParts nested (2 * size + 8) { Surrounding.bare with verbatim } 0 []
  let redirect (descriptor : Option Nat) : Parse Token := do
    match ← Parse.peek? with
    | some c => do
      Parse.skip
      readRedirection descriptor c
    | none => pure (.word parts)
  let atRedirection := (← Parse.peek?) == some '<' || (← Parse.peek?) == some '>'
  if !atRedirection then pure (.word parts)
  else
    match parts with
    | [] => redirect none
    | [.text text false] =>
      match text.toList with
      | [c] => if c.isDigit then redirect (some (c.toNat - 48)) else pure (.word parts)
      | _ => pure (.word parts)
    | _ => pure (.word parts)

/-- An operator that may be written twice, of which one has been passed. -/
def doubled (c : Char) : Parse Token := do
  let text := String.singleton c
  pure (.operator (if ← Parse.accept c then text ++ text else text))

/-- Passes over blanks, lines being joined. -/
def skipBlanks : (fuel : Nat) → Parse Unit
  | 0 => pure ()
  | fuel + 1 => do
    match ← Parse.peekJoined? with
    | some c =>
      if c == ' ' || c == '\t' then do
        Parse.skip
        skipBlanks fuel
      else pure ()
    | none => pure ()

/-- The next token; blanks and comments are passed over. -/
def scan (nested : Nested) (verbatim : Bool) : (fuel : Nat) → Parse Token
  | 0 => Parse.fail .tooDeep
  | fuel + 1 => do
    match ← Parse.peekJoined? with
    | none => pure .ending
    | some c =>
      if c == ' ' || c == '\t' then do
        Parse.skip
        scan nested verbatim fuel
      else if c == '#' then do
        modify fun source => { source with rest := source.rest.dropWhile (· != '\n') }
        scan nested verbatim fuel
      else if c == '\n' then do
        Parse.skip
        pure .newline
      else if c == '&' || c == '|' || c == ';' then do
        Parse.skip
        doubled c
      else if c == '(' || c == ')' then do
        Parse.skip
        pure (.operator (String.singleton c))
      else readWord nested verbatim

/-- The next token, which may be one that is looked at again. -/
def token (nested : Nested) (verbatim : Bool) : Parse Token := do
  let source ← get
  match source.returned with
  | some token => do
    set { source with returned := none }
    pure token
  | none => scan nested verbatim (source.rest.length + 1)

end Lexer

end Runbook.Shell
