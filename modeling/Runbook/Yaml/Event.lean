import Runbook.Table
import Runbook.Yaml.Lexer

/-! # YAML events

What a text holds, in the order of writing: its scalars and aliases, and where its collections begin
and end. Of a text that is wrong at some place the events before that place are known.

* **`Event`** — a piece of what a text holds.
* **`Reader`** — the tokens that are left and the events so far.
* **`Read.document`** — reads the events of the first document from tokens. -/

namespace Runbook.Yaml

/-- What stands before a node, and where. -/
structure Head where
  /-- Where the node begins. -/
  place : Mark
  /-- The number that stands for the node, if it has a name. -/
  anchor : Option Nat
  /-- Its tag. -/
  tag : Option String
  deriving DecidableEq, Repr

/-- The head of a node before which nothing stands. -/
def Head.bare (place : Mark) : Head := ⟨place, none, none⟩

/-- A piece of what a text holds. -/
inductive Event where
  /-- A scalar; a plain one stands without quotes and is no block of lines. -/
  | scalar (head : Head) (plain : Bool) (text : String)
  /-- A sequence begins. -/
  | sequenceOpen (head : Head)
  /-- A sequence ends. -/
  | sequenceClose
  /-- A mapping begins, in which keys and values alternate. -/
  | mappingOpen (head : Head)
  /-- A mapping ends. -/
  | mappingClose
  /-- The node that a number stands for. -/
  | alias (place : Mark) (number : Nat)
  deriving DecidableEq, Repr

/-- What a reader of events goes by and has found. -/
structure Reader where
  /-- The tokens that are left. -/
  tokens : List Lexeme
  /-- The fault behind the last token. -/
  ending : Fault
  /-- What the handles of tags abbreviate. -/
  handles : List (String × String)
  /-- The numbers of the names so far: that of a name's first use or, when it is used again, how many
  names there are. -/
  numbers : Table Nat
  /-- The events so far, the last one first. -/
  events : List Event

/-- A step of reading, which may find a fault; what was read before it stays. -/
abbrev Read := ExceptT Fault (StateM Reader)

namespace Read

/-- Stops where the tokens end. -/
def stop {α : Type} : Read α := do throw (← get).ending

/-- The next token. -/
def peek : Read Lexeme := do
  match (← get).tokens with
  | lexeme :: _ => pure lexeme
  | [] => stop

/-- Passes over the next token. -/
def skip : Read Unit := modify fun reader => { reader with tokens := reader.tokens.drop 1 }

/-- Passes over the next token if it is a given one, and says whether it is. -/
def skipIf (token : Token) : Read Bool := do
  let found := (← peek).token == token
  if found then skip
  pure found

/-- Adds an event. -/
def emit (event : Event) : Read Unit :=
  modify fun reader => { reader with events := event :: reader.events }

/-- Adds the scalar in which nothing is written. -/
def emitEmpty (place : Mark) : Read Unit := emit (.scalar (.bare place) true "")

/-- The tag that a handle and a suffix give, before the node that begins at a mark. -/
def expandTag (start place : Mark) (handle suffix : String) : Read String := do
  if handle.isEmpty then pure suffix
  else
    match (← get).handles.lookup handle with
    | some expansion => pure (expansion ++ suffix)
    | none => throw (.malformed .unknownHandle place (some (.node, start)))

/-- The name before a node, if the next token is one. -/
def anchor? : Read (Option String) := do
  match (← peek).token with
  | .anchor name => do
    skip
    pure (some name)
  | _ => pure none

/-- The tag before a node and its place, if the next token is one. -/
def tag? : Read (Option (Mark × String × String)) := do
  let lexeme ← peek
  match lexeme.token with
  | .tag handle suffix => do
    skip
    pure (some (lexeme.start, handle, suffix))
  | _ => pure none

/-- Gives a number to a name. -/
def number (name : String) : Read Nat := do
  let number := (← get).numbers.size
  modify fun reader => { reader with numbers := reader.numbers.insert name number }
  pure number

/-- The head of the next node, with its name and its tag in either order, and the token behind it. -/
def head : Read (Head × Lexeme) := do
  let start := (← peek).start
  let early ← anchor?
  let parts ← tag?
  let name ← if early.isNone && parts.isSome then anchor? else pure early
  let next ← peek
  let tag ← parts.mapM fun (place, handle, suffix) => expandTag start place handle suffix
  let anchor ← name.mapM number
  pure (⟨start, anchor, tag⟩, next)

mutual

/-- Reads the next node. In a block it may be a block collection, and the items of a sequence that is a
value in a block mapping need not be indented. -/
def node : (fuel : Nat) → (block indentless : Bool) → Read Unit
  | 0, _, _ => stop
  | fuel + 1, block, indentless => do
    let first ← peek
    match first.token with
    | .alias name => do
      skip
      match (← get).numbers.get? name with
      | some number => emit (.alias first.start number)
      | none => throw (.unknownAnchor first.start)
    | _ => do
      let (head, next) ← head
      let missing : Fault :=
        .malformed .missingNode next.start
          (some (if block then .blockNode else .flowNode, head.place))
      match next.token, block, indentless with
      | .scalar plain text, _, _ => do
        emit (.scalar head plain text)
        skip
      | .sequenceOpen, _, _ => do
        emit (.sequenceOpen head)
        skip
        flowItems fuel next.start true
      | .mappingOpen, _, _ => do
        emit (.mappingOpen head)
        skip
        flowEntries fuel next.start true
      -- a sequence as a value need not be indented more than its key
      | .dash, _, true => do
        emit (.sequenceOpen head)
        looseItems fuel
      | .blockSequence, true, _ => do
        emit (.sequenceOpen head)
        skip
        blockItems fuel next.start
      | .blockMapping, true, _ => do
        emit (.mappingOpen head)
        skip
        blockEntries fuel next.start
      -- nothing may be written but a name or a tag
      | _, _, _ =>
        if head.anchor.isSome || head.tag.isSome then emit (.scalar head true "")
        else throw missing

/-- Reads the next node, or the empty one if one of the given tokens stands next. -/
def nodeUnless : (fuel : Nat) → (stops : List Token) → (empty : Option Mark) →
    (block indentless : Bool) → Read Unit
  | 0, _, _, _, _ => stop
  | fuel + 1, stops, empty, block, indentless => do
    let next ← peek
    if stops.contains next.token then emitEmpty (empty.getD next.start)
    else node fuel block indentless

/-- Reads the items of the block sequence that begins at a mark. -/
def blockItems : (fuel : Nat) → (start : Mark) → Read Unit
  | 0, _ => stop
  | fuel + 1, start => do
    let next ← peek
    match next.token with
    | .dash => do
      skip
      nodeUnless fuel [.dash, .blockEnd] (some next.stop) true false
      blockItems fuel start
    | .blockEnd => do
      emit .sequenceClose
      skip
    | _ => throw (.malformed .missingDash next.start (some (.blockSequence, start)))

/-- Reads the items of a sequence that is not indented. -/
def looseItems : (fuel : Nat) → Read Unit
  | 0 => stop
  | fuel + 1 => do
    let next ← peek
    match next.token with
    | .dash => do
      skip
      nodeUnless fuel [.dash, .key, .value, .blockEnd] (some next.stop) true false
      looseItems fuel
    | _ => emit .sequenceClose

/-- Reads the entries of the block mapping that begins at a mark. -/
def blockEntries : (fuel : Nat) → (start : Mark) → Read Unit
  | 0, _ => stop
  | fuel + 1, start => do
    let next ← peek
    match next.token with
    | .key => do
      let stops := [.key, .value, .blockEnd]
      skip
      nodeUnless fuel stops (some next.stop) true true
      let colon ← peek
      if colon.token == .value then do
        skip
        nodeUnless fuel stops (some colon.stop) true true
      else emitEmpty colon.start
      blockEntries fuel start
    | .blockEnd => do
      emit .mappingClose
      skip
    | _ => throw (.malformed .missingKey next.start (some (.blockMapping, start)))

/-- Reads the value behind a key in brackets or braces. -/
def flowValue : (fuel : Nat) → (stops : List Token) → Read Unit
  | 0, _ => stop
  | fuel + 1, stops => do
    if ← skipIf .value then nodeUnless fuel stops none false false
    else emitEmpty (← peek).start

/-- Reads the items of a sequence in brackets. A key makes an item that is a mapping of one entry. -/
def flowItems : (fuel : Nat) → (start : Mark) → (first : Bool) → Read Unit
  | 0, _, _ => stop
  | fuel + 1, start, first => do
    let next ← peek
    if next.token == .sequenceClose then do
      emit .sequenceClose
      skip
    else do
      if !first then
        unless ← skipIf .comma do
          throw (.malformed .missingBracket next.start (some (.flowSequence, start)))
      let next ← peek
      match next.token with
      | .sequenceClose => do
        emit .sequenceClose
        skip
      | .key => do
        emit (.mappingOpen (.bare next.start))
        skip
        let stops := [.comma, .sequenceClose]
        let key ← peek
        if (Token.value :: stops).contains key.token then do
          emitEmpty key.stop
          skip
        else node fuel false false
        flowValue fuel stops
        let _ ← peek
        emit .mappingClose
        flowItems fuel start false
      | _ => do
        node fuel false false
        flowItems fuel start false

/-- Reads the entries of a mapping in braces. -/
def flowEntries : (fuel : Nat) → (start : Mark) → (first : Bool) → Read Unit
  | 0, _, _ => stop
  | fuel + 1, start, first => do
    let next ← peek
    if next.token == .mappingClose then do
      emit .mappingClose
      skip
    else do
      if !first then
        unless ← skipIf .comma do
          throw (.malformed .missingBrace next.start (some (.flowMapping, start)))
      match (← peek).token with
      | .mappingClose => do
        emit .mappingClose
        skip
      | .key => do
        skip
        let stops := [.comma, .mappingClose]
        nodeUnless fuel (.value :: stops) none false false
        flowValue fuel stops
        flowEntries fuel start false
      | _ => do
        node fuel false false
        emitEmpty (← peek).start
        flowEntries fuel start false

end

/-! ### Documents -/

/-- The abbreviations that need no declaration. -/
def defaultHandles : List (String × String) := [("!", "!"), ("!!", "tag:yaml.org,2002:")]

/-- Reads the directives before a document. -/
def directives : (fuel : Nat) → (versioned : Bool) → (handles : List (String × String)) → Read Unit
  | 0, _, _ => stop
  | fuel + 1, versioned, handles => do
    let next ← peek
    match next.token with
    | .version major minor =>
      if versioned then throw (.malformed .repeatedVersion next.start none)
      else if major ≠ 1 ∨ (minor ≠ 1 ∧ minor ≠ 2) then
        throw (.malformed .unsupportedVersion next.start none)
      else do
        skip
        directives fuel true handles
    | .abbreviation handle expansion =>
      if (handles.lookup handle).isSome then
        throw (.malformed .repeatedHandle next.start none)
      else do
        skip
        directives fuel versioned (handles ++ [(handle, expansion)])
    | _ => modify fun reader => { reader with handles := handles ++ defaultHandles }

/-- Whether a token says that a document has no content before it. -/
def endsDocument : Token → Bool
  | .version .. | .abbreviation .. | .documentStart | .documentEnd | .streamEnd => true
  | _ => false

/-- Reads the first document up to its end. Says whether there is one. -/
def document (fuel : Nat) : Read Bool := do
  match (← peek).token with
  | .streamEnd => pure false
  | .version .. | .abbreviation .. | .documentStart => do
    directives fuel false []
    let next ← peek
    if next.token == .documentStart then do
      skip
      let content ← peek
      if endsDocument content.token then emitEmpty content.start else node fuel true false
      let _ ← skipIf .documentEnd
      pure true
    else throw (.malformed .missingStart next.start none)
  | _ => do
    node fuel true false
    let _ ← skipIf .documentEnd
    pure true

/-- Whether nothing stands behind the first document. -/
def nothingLeft : (fuel : Nat) → Read Bool
  | 0 => stop
  | fuel + 1 => do
    match (← peek).token with
    | .documentEnd => do
      skip
      nothingLeft fuel
    | .streamEnd => pure true
    | _ => pure false

end Read

end Runbook.Yaml
