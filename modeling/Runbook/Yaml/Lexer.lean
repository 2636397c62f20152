import Runbook.Yaml.Name
import Runbook.Yaml.Scalar

/-! # From YAML text to tokens

Whether a word is a key shows only at the colon behind it. So each word that may turn out to be one
is remembered as a candidate, and the mark of a key is put before it when the colon comes.

* **`Lexer`** — the tokens found so far and what governs the next one.
* **`Lexer.step`** — reads on by one token.
* **`Token.ofText`** — the tokens of a text, as far as they are certain, and the fault behind them. -/

namespace Runbook.Yaml

/-- A token that turns out to begin a key if a colon follows on its line. -/
structure Candidate where
  /-- How many tokens stand before it. -/
  position : Nat
  /-- Whether it must turn out to begin a key. -/
  required : Bool
  /-- How many bytes of the text stand before it. -/
  index : Nat
  /-- Where it is. -/
  mark : Mark

/-- What has been found of a text and what governs how it is read on. -/
structure Lexer where
  /-- What is left of the text. -/
  cursor : Cursor
  /-- The tokens that were found. -/
  tokens : Array Lexeme
  /-- The column of the innermost block collection, or `-1`. -/
  indent : Int
  /-- The columns of the block collections around it, from the inside. -/
  outer : List Int
  /-- Whether a key can begin here. -/
  keyAllowed : Bool
  /-- The candidate outside all brackets and braces. -/
  candidate : Option Candidate
  /-- The candidates within the brackets and braces that are open, from the inside; while there are
  any, the innermost one counts. -/
  flowCandidates : List (Option Candidate)
  /-- Whether the end of the text was reached. -/
  finished : Bool

namespace Lexer

/-- The lexer at the beginning of a text. -/
def start (text : List Char) : Lexer := ⟨.start text, #[], -1, [], true, none, [], false⟩

/-- Whether brackets or braces are open. -/
def inFlow (lexer : Lexer) : Bool := !lexer.flowCandidates.isEmpty

/-- The candidate that counts here. -/
def current (lexer : Lexer) : Option Candidate := lexer.flowCandidates.headD lexer.candidate

/-- Replaces the candidate that counts here. -/
def setCurrent (lexer : Lexer) (candidate : Option Candidate) : Lexer :=
  match lexer.flowCandidates with
  | [] => { lexer with candidate }
  | _ :: rest => { lexer with flowCandidates := candidate :: rest }

/-- Adds a token behind the others, which begins at a mark and ends at the cursor. -/
def push (lexer : Lexer) (token : Token) (start : Mark) : Lexer :=
  { lexer with tokens := lexer.tokens.push ⟨token, start, lexer.cursor.mark⟩ }

/-- Moves on in the text. -/
def moveTo (lexer : Lexer) (cursor : Cursor) : Lexer := { lexer with cursor }

/-- Moves on in the text and adds the token that was passed. -/
def pass (lexer : Lexer) (cursor : Cursor) (token : Token) : Lexer :=
  (lexer.moveTo cursor).push token lexer.cursor.mark

/-- Adds the token that is made of the next so many characters. -/
def passNext (lexer : Lexer) (token : Token) (count : Nat) : Lexer :=
  lexer.pass (lexer.cursor.advance count) token

/-- Says whether a key can begin here. -/
def allowKey (lexer : Lexer) (allowed : Bool) : Lexer := { lexer with keyAllowed := allowed }

/-- Passes over blanks, comments and line ends; a byte order mark may begin a line. A tab may not stand
where a key can begin; behind a line end outside brackets and braces one can. -/
def skipGap : (fuel : Nat) → Lexer → Lexer
  | 0, lexer => lexer
  | fuel + 1, lexer =>
    let cursor := lexer.cursor
    let cursor :=
      if cursor.column == 0 && cursor.next == '\ufeff' then cursor.advance 1 else cursor
    -- a tab cannot indent what might turn out to be a key
    let tabs := lexer.inFlow || !lexer.keyAllowed
    let cursor := cursor.skipWhile fun c => c == ' ' || (tabs && c == '\t')
    let cursor :=
      if cursor.next == '#' then cursor.skipWhile fun c => !isBreakOrEnd c else cursor
    let lexer := lexer.moveTo cursor
    if isBreak cursor.next then
      let lexer := lexer.moveTo cursor.skipBreak
      skipGap fuel (if lexer.inFlow then lexer else lexer.allowKey true)
    else lexer

/-- Gives a candidate up that no colon can follow any more, being on another line or more than 1024
bytes back. -/
def refresh (cursor : Cursor) : Option Candidate → Except Fault (Option Candidate)
  | none => .ok none
  | some candidate =>
    -- a key and its colon stand on one line and close together
    if candidate.mark.line < cursor.line || candidate.index + 1024 < cursor.index then
      if candidate.required then .error (cursor.fault .missingColon .simpleKey candidate.mark)
      else .ok none
    else .ok (some candidate)

/-- Gives all candidates up that no colon can follow any more. -/
def refreshAll (lexer : Lexer) : Except Fault Lexer := do
  let candidate ← refresh lexer.cursor lexer.candidate
  let flowCandidates ← lexer.flowCandidates.mapM (refresh lexer.cursor)
  .ok { lexer with candidate, flowCandidates }

/-- Gives the candidate up that counts here. -/
def dropCandidate (lexer : Lexer) : Except Fault Lexer :=
  match lexer.current.filter Candidate.required with
  | some candidate => .error (lexer.cursor.fault .missingColon .simpleKey candidate.mark)
  | none => .ok (lexer.setCurrent none)

/-- Makes the token that follows a candidate, if a key can begin here. It must turn out to begin a
key if it stands where the keys of the innermost block mapping stand. -/
def addCandidate (lexer : Lexer) : Except Fault Lexer :=
  if lexer.keyAllowed then do
    let cursor := lexer.cursor
    -- at the column of a block mapping nothing but a key of it can begin
    let required := !lexer.inFlow && lexer.indent == (cursor.column : Int)
    let lexer ← lexer.dropCandidate
    .ok (lexer.setCurrent
      (some ⟨lexer.tokens.size, required, cursor.index, cursor.mark⟩))
  else .ok lexer

/-- Ends the block collections that are right of a column. -/
def closeBlocks (column : Int) : (outer : List Int) → Lexer → Lexer
  | outer, lexer =>
    if lexer.inFlow || lexer.indent ≤ column then lexer
    else
      let lexer := lexer.push .blockEnd lexer.cursor.mark
      match outer with
      | [] => { lexer with indent := -1, outer := [] }
      | indent :: outer => closeBlocks column outer { lexer with indent, outer }

/-- Begins a block collection at a mark right of the innermost one; its token is put at a position. -/
def openBlock (lexer : Lexer) (mark : Mark) (position : Nat) (token : Token) : Lexer :=
  if lexer.inFlow || (mark.column : Int) ≤ lexer.indent then lexer
  else
    { lexer with
      tokens := lexer.tokens.insertIdxIfInBounds position ⟨token, mark, mark⟩
      indent := mark.column
      outer := lexer.indent :: lexer.outer }

/-- Ends the text, which counts as the end of a line. -/
def readEnd (lexer : Lexer) : Except Fault Lexer := do
  let cursor := lexer.cursor
  let lexer :=
    if cursor.column = 0 then lexer
    else lexer.moveTo { cursor with line := cursor.line + 1, column := 0 }
  let lexer ← (closeBlocks (-1) lexer.outer lexer).dropCandidate
  .ok { (lexer.allowKey false).push .streamEnd lexer.cursor.mark with finished := true }

/-- Reads a directive. -/
def readDirective (lexer : Lexer) : Except Fault Lexer := do
  let lexer ← (closeBlocks (-1) lexer.outer lexer).dropCandidate
  let (token, cursor) ← Name.directive lexer.cursor
  .ok ((lexer.allowKey false).pass cursor token)

/-- Reads a line that starts or ends a document. -/
def readMarker (lexer : Lexer) (token : Token) : Except Fault Lexer := do
  let lexer ← (closeBlocks (-1) lexer.outer lexer).dropCandidate
  .ok ((lexer.allowKey false).passNext token 3)

/-- Reads an opening bracket or brace. -/
def readOpening (lexer : Lexer) (token : Token) : Except Fault Lexer := do
  let lexer ← lexer.addCandidate
  .ok { (lexer.allowKey true).passNext token 1 with
    flowCandidates := none :: lexer.flowCandidates }

/-- Reads a closing bracket or brace. -/
def readClosing (lexer : Lexer) (token : Token) : Except Fault Lexer := do
  let lexer ← lexer.dropCandidate
  .ok { (lexer.allowKey false).passNext token 1 with
    flowCandidates := lexer.flowCandidates.drop 1 }

/-- Reads a comma. -/
def readComma (lexer : Lexer) : Except Fault Lexer := do
  let lexer ← lexer.dropCandidate
  .ok ((lexer.allowKey true).passNext .comma 1)

/-- The fault of what cannot stand at the cursor. -/
def misplaced (lexer : Lexer) (complaint : Complaint) : Fault :=
  .malformed complaint lexer.cursor.mark none

/-- Reads a dash. -/
def readDash (lexer : Lexer) : Except Fault Lexer :=
  if !lexer.inFlow && !lexer.keyAllowed then .error (lexer.misplaced .misplacedDash)
  else do
    let lexer := lexer.openBlock lexer.cursor.mark lexer.tokens.size .blockSequence
    let lexer ← lexer.dropCandidate
    .ok ((lexer.allowKey true).passNext .dash 1)

/-- Reads the mark of a key. -/
def readKey (lexer : Lexer) : Except Fault Lexer :=
  if !lexer.inFlow && !lexer.keyAllowed then .error (lexer.misplaced .misplacedKey)
  else do
    let lexer := lexer.openBlock lexer.cursor.mark lexer.tokens.size .blockMapping
    let lexer ← lexer.dropCandidate
    .ok ((lexer.allowKey !lexer.inFlow).passNext .key 1)

/-- Reads a colon, before which the candidate is a key. -/
def readValue (lexer : Lexer) : Except Fault Lexer :=
  match lexer.current with
  | some candidate =>
    let key : Lexeme := ⟨.key, candidate.mark, candidate.mark⟩
    let lexer :=
      -- what has been read since then is the key, so its mark goes before all of it
      { lexer with tokens := lexer.tokens.insertIdxIfInBounds candidate.position key }
    let lexer := lexer.openBlock candidate.mark candidate.position .blockMapping
    .ok (((lexer.setCurrent none).allowKey false).passNext .value 1)
  | none =>
    if !lexer.inFlow && !lexer.keyAllowed then .error (lexer.misplaced .misplacedColon)
    else
      let lexer := lexer.openBlock lexer.cursor.mark lexer.tokens.size .blockMapping
      .ok ((lexer.allowKey !lexer.inFlow).passNext .value 1)

/-- Reads a name behind its first character. -/
def readName (lexer : Lexer) (activity : Activity) (token : String → Token) :
    Except Fault Lexer := do
  let lexer ← lexer.addCandidate
  let (name, cursor) ← Name.read activity lexer.cursor
  .ok ((lexer.allowKey false).pass cursor (token name))

/-- Reads a tag. -/
def readTag (lexer : Lexer) : Except Fault Lexer := do
  let lexer ← lexer.addCandidate
  let (token, cursor) ← Name.tag lexer.inFlow lexer.cursor
  .ok ((lexer.allowKey false).pass cursor token)

/-- Reads a block scalar. -/
def readBlockScalar (lexer : Lexer) (folded : Bool) : Except Fault Lexer := do
  let lexer ← lexer.dropCandidate
  let (text, cursor) ← Scalar.block folded lexer.indent lexer.cursor
  .ok ((lexer.allowKey true).pass cursor (.scalar false text))

/-- Reads a quoted scalar. -/
def readQuoted (lexer : Lexer) (single : Bool) : Except Fault Lexer := do
  let lexer ← lexer.addCandidate
  let (text, cursor) ← Scalar.quoted single lexer.cursor
  .ok ((lexer.allowKey false).pass cursor (.scalar false text))

/-- Reads a plain scalar. Behind a line end that it includes a key can begin. -/
def readPlain (lexer : Lexer) : Except Fault Lexer := do
  let lexer ← lexer.addCandidate
  let (text, broken, cursor) ← Scalar.plain lexer.inFlow (lexer.indent + 1).toNat lexer.cursor
  .ok ((lexer.allowKey broken).pass cursor (.scalar true text))

/-- Whether a plain scalar can begin with a character before another one. -/
def startsPlain (flow : Bool) (c after : Char) : Bool :=
  !(endsWord c || "-?:,[]\x7b\x7d#&*!|>'\"%@`".toList.contains c)
    || (c == '-' && !isGapChar after)
    || (!flow && (c == '?' || c == ':') && !endsWord after)

/-- Reads the token at the cursor. -/
def readToken (lexer : Lexer) : Except Fault Lexer :=
  let cursor := lexer.cursor
  let c := cursor.next
  let after := cursor.ahead 1
  let flow := lexer.inFlow
  if cursor.rest.isEmpty then lexer.readEnd
  -- marks that count only at the start of a line
  else if cursor.column == 0 && c == '%' then lexer.readDirective
  else if cursor.atMarker '-' then lexer.readMarker .documentStart
  else if cursor.atMarker '.' then lexer.readMarker .documentEnd
  -- marks of collections
  else if c == '[' then lexer.readOpening .sequenceOpen
  else if c == '{' then lexer.readOpening .mappingOpen
  else if c == ']' then lexer.readClosing .sequenceClose
  else if c == '}' then lexer.readClosing .mappingClose
  else if c == ',' then lexer.readComma
  else if c == '-' && endsWord after then lexer.readDash
  else if c == '?' && (flow || endsWord after) then lexer.readKey
  else if c == ':' && (flow || endsWord after) then lexer.readValue
  -- what stands before a node
  else if c == '*' then lexer.readName .reference .alias
  else if c == '&' then lexer.readName .anchor .anchor
  else if c == '!' then lexer.readTag
  -- scalars; a plain one comes last, since any other mark keeps it from beginning
  else if c == '|' && !flow then lexer.readBlockScalar false
  else if c == '>' && !flow then lexer.readBlockScalar true
  else if c == '\'' then lexer.readQuoted true
  else if c == '"' then lexer.readQuoted false
  else if startsPlain flow c after then lexer.readPlain
  else .error (cursor.fault .unknownToken .token cursor.mark)

/-- Reads on by one token. -/
def step (lexer : Lexer) : Except Fault Lexer := do
  let lexer ← (skipGap (lexer.cursor.rest.length + 1) lexer).refreshAll
  let lexer ← (closeBlocks lexer.cursor.column lexer.outer lexer).readToken
  lexer.refreshAll

/-- The position of the first candidate that may still turn out to begin a key. -/
def firstPending (lexer : Lexer) : Nat :=
  (lexer.candidate :: lexer.flowCandidates).foldl
    (fun position candidate => candidate.elim position fun c => min position c.position)
    lexer.tokens.size

/-- The tokens that no longer change. -/
def certain (lexer : Lexer) : List Lexeme := lexer.tokens.toList.take lexer.firstPending

/-- Reads on to the end. Gives the tokens and the fault that ends them, if one does. -/
def run : (fuel : Nat) → Lexer → List Lexeme × Option Fault
  | 0, lexer => (lexer.certain, none)
  | fuel + 1, lexer =>
    if lexer.finished then (lexer.tokens.toList, none)
    else
      match lexer.step with
      | .ok next => run fuel next
      | .error fault => (lexer.certain, some fault)

end Lexer

/-- The tokens of a text, as far as they are certain, and the fault that ends them, if one does. -/
def Token.ofText (text : String) : List Lexeme × Option Fault :=
  let chars := text.toList
  match chars.dropWhile isPrintable with
  | [] => Lexer.run (chars.length + 2) (.start chars)
  | _ :: _ => ([], some (.controlCharacter (Cursor.byteCount (chars.takeWhile isPrintable))))

end Runbook.Yaml
