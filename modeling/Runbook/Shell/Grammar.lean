import Runbook.Shell.Lexer

/-! # The grammar of a shell

A script is read command by command, so that what a command changes can matter for those behind it.

* **`Grammar.next`** — the next complete command of a script. -/

namespace Runbook.Shell

/-- What stands next in a script. -/
inductive Complete where
  /-- A command, or an empty line. -/
  | command (command : Option ShellCommand)
  /-- Nothing more. -/
  | ending

namespace Grammar

/-! ### Tokens -/

/-- The words that have a meaning of their own at the start of a command. -/
def reserved : List String :=
  ["!", "case", "do", "done", "elif", "else", "esac", "fi", "for", "if", "in", "then", "until",
    "while", "\x7b", "\x7d"]

/-- The commands that are part of the language and no name of a function. -/
def specialCommands : List String :=
  [".", ":", "break", "continue", "eval", "exec", "exit", "export", "readonly", "return", "set",
    "shift", "times", "trap", "unset"]

/-- Which meanings a word may have besides its own. -/
structure Expectation where
  /-- Ends of lines are passed over. -/
  skipLines : Bool
  /-- It may be reserved. -/
  reserved : Bool
  /-- It may be an alias. -/
  aliases : Bool
  /-- It is the last line of a here-document. -/
  verbatim : Bool

namespace Expectation

/-- A word as it is. -/
def plain : Expectation := ⟨false, false, false, false⟩

/-- The start of a command. -/
def command : Expectation := ⟨false, true, true, false⟩

/-- The start of a command, perhaps on a later line. -/
def commandBelow : Expectation := ⟨true, true, true, false⟩

/-- A reserved word or a pattern, perhaps on a later line. -/
def patternBelow : Expectation := ⟨true, true, false, false⟩

/-- A word that may be an alias. -/
def aliased : Expectation := ⟨false, false, true, false⟩

end Expectation

/-- Forgets the aliases whose texts have been passed, and tells whether the word behind them may be an
alias as well. -/
def closeAliases : Parse Bool := do
  let source ← get
  let left := source.rest.length
  let (passed, openAliases) := source.openAliases.partition fun entry => left ≤ entry.behind
  set { source with openAliases }
  pure (passed.any OpenAlias.goesOn)

/-- Puts the text of an alias before what is left. -/
def openAlias (name text : String) : Parse Unit :=
  modify fun source =>
    let last := text.toList.getLast?
    { source with
      rest := text.toList ++ source.rest
      openAliases :=
        ⟨name, source.rest.length, last == some ' ' || last == some '\t'⟩ :: source.openAliases }

/-- The next token under an expectation. -/
def tokenFrom (nested : Lexer.Nested) : (fuel : Nat) → Expectation → Parse Token
  | 0, _ => Parse.fail .tooDeep
  | fuel + 1, expected => do
    let again := (← get).returned.isSome
    let goesOn ← if again then pure false else do
      Lexer.skipBlanks (← get).rest.length
      closeAliases
    let expected := { expected with aliases := expected.aliases || goesOn }
    match ← Lexer.token nested expected.verbatim with
    | .newline =>
      if expected.skipLines then do
        Lexer.readDocuments nested
        tokenFrom nested fuel expected
      else pure .newline
    | .word parts =>
      match Word.plain? parts with
      | none => pure (.word parts)
      | some text =>
        if expected.reserved && reserved.contains text then pure (.reserved text)
        else if !expected.aliases then pure (.word parts)
        else
          let source ← get
          match source.aliases.lookup text with
          | none => pure (.word parts)
          | some meaning =>
            if source.openAliases.any fun entry => entry.name = text then pure (.word parts)
            else do
              openAlias text meaning
              tokenFrom nested fuel expected
    | token => pure token

/-- Looks at a token again. -/
def giveBack (token : Token) : Parse Unit :=
  modify fun source => { source with returned := some token }

/-- Fails because a token cannot stand where it does. -/
def unexpected {α : Type} (token : Token) (expected : Option Token) : Parse α :=
  Parse.fail (.unexpected token.name (expected.map Token.name))

/-- How many aliases may follow one another. -/
def aliasLimit : Nat := 1000

/-- The next token under an expectation. -/
def token (nested : Lexer.Nested) (expected : Expectation) : Parse Token := do
  tokenFrom nested ((← get).rest.length + aliasLimit) expected

/-- Passes over a reserved word that must stand next. -/
def expectReserved (nested : Lexer.Nested) (expected : Expectation) (text : String) :
    Parse Unit := do
  match ← token nested expected with
  | .reserved found =>
    if found = text then pure () else unexpected (.reserved found) (some (.reserved text))
  | other => unexpected other (some (.reserved text))

/-! ### Redirections -/

/-- The word that must stand next. -/
def word (nested : Lexer.Nested) (expected : Expectation) : Parse Word := do
  match ← token nested expected with
  | .word parts => pure parts
  | other => unexpected other none

/-- The text of a word in which nothing is expanded. -/
def literalText (parts : Word) : String :=
  String.join (parts.map fun
    | .text text _ => text
    | _ => "")

/-- Whether some part of a word is quoted. -/
def isQuoted (parts : Word) : Bool :=
  parts.any fun
    | .text _ quoted => quoted
    | _ => false

/-- The redirection that an operator makes, whose target stands next. -/
def redirection (nested : Lexer.Nested) (descriptor : Option Nat) (operator : String) :
    Parse Redirection := do
  if operator = "<<" ∨ operator = "<<-" then
    let parts ← word nested { Expectation.plain with verbatim := true }
    modifyGet fun source =>
      let number := source.documents.size
      let announcement : Announcement :=
        ⟨number, literalText parts, isQuoted parts, operator = "<<-"⟩
      (.mk (descriptor.getD 0) (.document number),
        { source with
          documents := source.documents.push []
          announced := source.announced ++ [announcement] })
  else
    let target ← word nested .plain
    let copy (default : Nat) : Redirection :=
      let target := match Word.plain? target with
        | some text =>
          match text.toList with
          | ['-'] => .close
          | [c] => if c.isDigit then .copy (c.toNat - 48) else .copyNamed target
          | _ => .copyNamed target
        | none => .copyNamed target
      .mk (descriptor.getD default) target
    pure (match operator with
      | "<" => .mk (descriptor.getD 0) (.read target)
      | "<>" => .mk (descriptor.getD 0) (.update target)
      | "<&" => copy 0
      | ">&" => copy 1
      | ">>" => .mk (descriptor.getD 1) (.append target)
      | ">|" => .mk (descriptor.getD 1) (.clobber target)
      | _ => .mk (descriptor.getD 1) (.write target))

/-- The redirections that stand next. -/
def redirections (nested : Lexer.Nested) : (fuel : Nat) → Expectation → Parse (List Redirection)
  | 0, _ => Parse.fail .tooDeep
  | fuel + 1, expected => do
    match ← token nested expected with
    | .redirection descriptor operator => do
      let first ← redirection nested descriptor operator
      pure (first :: (← redirections nested fuel .plain))
    | other => do
      giveBack other
      pure []

/-! ### Simple commands -/

/-- The name and the value of an assignment, if a word is one. -/
def assignment? : Word → Option (String × Word)
  | .text text false :: parts =>
    let chars := text.toList
    let name := chars.takeWhile Text.isNameChar
    match chars.dropWhile Text.isNameChar with
    | '=' :: value =>
      if name.isEmpty || (name.headD '0').isDigit then none
      else
        let value := if value.isEmpty then [] else [WordPart.text (String.ofList value) false]
        some (String.ofList name, value ++ parts)
    | _ => none
  | _ => none

/-- Whether a text is the name of a variable. -/
def isName (text : String) : Bool :=
  !text.isEmpty && !((text.toList.headD '0').isDigit) && text.toList.all Text.isNameChar

/-- What has been read of a simple command. -/
structure Simple where
  /-- The line on which it begins. -/
  line : Nat
  /-- The assignments. -/
  assignments : List (String × Word)
  /-- The words. -/
  words : List Word
  /-- The redirections. -/
  redirections : List Redirection

/-- What a simple command turns out to be. -/
inductive SimpleEnd where
  /-- A command. -/
  | command (command : ShellCommand)
  /-- The name of a function, whose body follows. -/
  | function (name : String)

/-- The rest of a simple command. -/
def simple (nested : Lexer.Nested) : (fuel : Nat) → Simple → Parse SimpleEnd
  | 0, _ => Parse.fail .tooDeep
  | fuel + 1, found => do
    let finish (token : Token) : Parse SimpleEnd := do
      giveBack token
      pure (.command (.simple found.line found.assignments found.words found.redirections))
    match ← token nested (if found.words.isEmpty then .aliased else .plain) with
    | .word parts =>
      match if found.words.isEmpty then assignment? parts else none with
      | some assignment =>
        simple nested fuel { found with assignments := found.assignments ++ [assignment] }
      | none => simple nested fuel { found with words := found.words ++ [parts] }
    | .redirection descriptor operator => do
      let redirection ← redirection nested descriptor operator
      simple nested fuel { found with redirections := found.redirections ++ [redirection] }
    | .operator "(" =>
      match found with
      | ⟨_, [], [name], []⟩ => do
        match ← token nested .plain with
        | .operator ")" =>
          let text := (Word.plain? name).getD ""
          if isName text && !specialCommands.contains text then pure (.function text)
          else Parse.fail .badFunctionName
        | other => unexpected other (some (.operator ")"))
      | _ => finish (.operator "(")
    | other => finish other

/-- The words of a list, and the token behind them. -/
def wordList (nested : Lexer.Nested) : (fuel : Nat) → Parse (List Word × Token)
  | 0 => Parse.fail .tooDeep
  | fuel + 1 => do
    match ← token nested .plain with
    | .word parts => do
      let (words, token) ← wordList nested fuel
      pure (parts :: words, token)
    | other => pure ([], other)

/-- The patterns before a command of a choice, of which the first token has been read. Words that are
reserved elsewhere are patterns here. -/
def patterns (nested : Lexer.Nested) : (fuel : Nat) → Token → Parse (List Word)
  | 0, _ => Parse.fail .tooDeep
  | fuel + 1, first => do
    let parts : Word := match first with
      | .word parts => parts
      | .reserved text => [.text text false]
      | _ => []
    match ← token nested .plain with
    | .operator "|" => do
      let next ← token nested .plain
      pure (parts :: (← patterns nested fuel next))
    | .operator ")" => pure [parts]
    | other => unexpected other (some (.operator ")"))

/-! ### Commands -/

/-- What kind of list is read. -/
inductive ListKind where
  /-- A complete command, which ends with its line. -/
  | line
  /-- Commands of which there must be one. -/
  | filled
  /-- Commands of which there may be none. -/
  | any
  deriving DecidableEq, Repr

/-- A command that must be there. -/
def required (nested : Lexer.Nested) (command : Option ShellCommand) : Parse ShellCommand := do
  match command with
  | some command => pure command
  | none => unexpected (← token nested .command) none

/-- A command behind another one. -/
def join (before : Option ShellCommand) (command : ShellCommand) : ShellCommand :=
  match before with
  | some before => .sequence before command
  | none => command

mutual

/-- How commands within words are read. -/
def nestedAt : (fuel : Nat) → Lexer.Nested
  | 0 => ⟨Parse.fail .tooDeep, Parse.fail .tooDeep⟩
  | fuel + 1 =>
    { untilParenthesis := do
        let found ← list fuel .any none
        match ← token (nestedAt fuel) .plain with
        | .operator ")" => do
          -- here-documents that lack their texts at this point are empty
          modify fun source => { source with announced := [] }
          pure found
        | other => unexpected other (some (.operator ")"))
      whole := list fuel .any none }

/-- A list of commands behind those that have been read. -/
def list : (fuel : Nat) → ListKind → (before : Option ShellCommand) → Parse (Option ShellCommand)
  | 0, _, _ => Parse.fail .tooDeep
  | fuel + 1, kind, before => do
    let nested := nestedAt fuel
    let first ← token nested { Expectation.command with skipLines := kind != .line }
    match first with
    | .newline => do
      Lexer.readDocuments nested
      pure before
    | .ending => do
      Lexer.readDocuments nested
      giveBack .ending
      pure before
    | first =>
      giveBack first
      -- behind a command a list may end, and some lists may be empty
      if (kind = .any ∨ (kind = .filled ∧ before.isSome)) && first.endsList then pure before
      else
        let command ← conditional fuel
        let next ← token nested .plain
        let command := match next with
          | .operator "&" => .background 0 command
          | _ => command
        let found := join before command
        match next with
        | .newline | .ending => do
          giveBack next
          list fuel kind (some found)
        | .operator "&" | .operator ";" => list fuel kind (some found)
        | other =>
          if kind = .line then unexpected other none
          else do
            giveBack other
            pure (some found)

/-- Pipelines that depend on the success of those before them. -/
def conditional : (fuel : Nat) → Parse ShellCommand
  | 0 => Parse.fail .tooDeep
  | fuel + 1 => do continued fuel (← pipeline fuel .plain)

/-- What depends on the success of a command. -/
def continued : (fuel : Nat) → ShellCommand → Parse ShellCommand
  | 0, _ => Parse.fail .tooDeep
  | fuel + 1, first => do
    match ← token (nestedAt fuel) .plain with
    | .operator "&&" => do
      continued fuel (.both first (← pipeline fuel .commandBelow))
    | .operator "||" => do
      continued fuel (.either first (← pipeline fuel .commandBelow))
    | other => do
      giveBack other
      pure first

/-- Commands that read what those before them write. -/
def pipeline : (fuel : Nat) → Expectation → Parse ShellCommand
  | 0, _ => Parse.fail .tooDeep
  | fuel + 1, expected => do
    let first ← token (nestedAt fuel) expected
    match first with
    | .reserved "!" => .negation <$> stages fuel .command
    | other => do
      giveBack other
      stages fuel .plain

/-- The commands of a pipeline. -/
def stages : (fuel : Nat) → Expectation → Parse ShellCommand
  | 0, _ => Parse.fail .tooDeep
  | fuel + 1, expected => do
    let first ← command fuel expected
    match ← moreStages fuel with
    | [] => pure first
    | more => pure (.pipeline (first :: more))

/-- The commands of a pipeline behind the first one. -/
def moreStages : (fuel : Nat) → Parse (List ShellCommand)
  | 0 => Parse.fail .tooDeep
  | fuel + 1 => do
    match ← token (nestedAt fuel) .plain with
    | .operator "|" => do
      let next ← command fuel .commandBelow
      pure (next :: (← moreStages fuel))
    | other => do
      giveBack other
      pure []

/-- A command with the redirections behind it. -/
def command : (fuel : Nat) → Expectation → Parse ShellCommand
  | 0, _ => Parse.fail .tooDeep
  | fuel + 1, expected => do
    let nested := nestedAt fuel
    let line := (← get).line
    match ← token nested expected with
    | .operator "(" => do
      let body ← list fuel .filled none
      match ← token nested .plain with
      | .operator ")" => do
        let found ← redirections nested (fuel + 1) .command
        pure (.subshell line (← required nested body) found)
      | other => unexpected other (some (.operator ")"))
    | .reserved "\x7b" => do
      let body ← list fuel .filled none
      expectReserved nested .plain "\x7d"
      finish fuel line (← required nested body)
    | .reserved "if" => do
      let body ← branch fuel
      expectReserved nested .plain "fi"
      finish fuel line body
    | .reserved "while" => do finish fuel line (← loop fuel false)
    | .reserved "until" => do finish fuel line (← loop fuel true)
    | .reserved "for" => do finish fuel line (← each fuel line)
    | .reserved "case" => do finish fuel line (← choice fuel line)
    | .word parts => opened fuel (.word parts)
    | .redirection descriptor operator => opened fuel (.redirection descriptor operator)
    | other => unexpected other none

/-- A simple command or a function, of which the first token has been read. -/
def opened : (fuel : Nat) → Token → Parse ShellCommand
  | 0, _ => Parse.fail .tooDeep
  | fuel + 1, first => do
    giveBack first
    match ← simple (nestedAt fuel) (fuel + 1) ⟨(← get).line, [], [], []⟩ with
    | .command command => pure command
    | .function name => do
      let line := (← get).line
      .function line name <$> command fuel .commandBelow

/-- A compound command with the redirections behind it. -/
def finish : (fuel line : Nat) → ShellCommand → Parse ShellCommand
  | 0, _, _ => Parse.fail .tooDeep
  | fuel + 1, line, body => do
    match ← redirections (nestedAt fuel) (fuel + 1) .command with
    | [] => pure body
    | found => pure (.redirected line body found)

/-- A branch behind its first word, without its last one. -/
def branch : (fuel : Nat) → Parse ShellCommand
  | 0 => Parse.fail .tooDeep
  | fuel + 1 => do
    let nested := nestedAt fuel
    let condition ← list fuel .filled none
    expectReserved nested .plain "then"
    let success ← list fuel .filled none
    match ← token nested .plain with
    | .reserved "elif" => do
      let failure ← branch fuel
      pure (.branch (← required nested condition) (← required nested success) (some failure))
    | .reserved "else" => do
      let failure ← list fuel .filled none
      pure (.branch (← required nested condition) (← required nested success) failure)
    | other => do
      giveBack other
      match condition, success with
      | some condition, some success => pure (.branch condition success none)
      | _, _ => unexpected other (some (.reserved "fi"))

/-- A loop behind its first word. -/
def loop : (fuel : Nat) → (untilSuccess : Bool) → Parse ShellCommand
  | 0, _ => Parse.fail .tooDeep
  | fuel + 1, untilSuccess => do
    let nested := nestedAt fuel
    let condition ← list fuel .filled none
    expectReserved nested .plain "do"
    let body ← list fuel .filled none
    expectReserved nested .plain "done"
    pure (.loop untilSuccess (← required nested condition) (← required nested body))

/-- A loop over words behind its first word. -/
def each : (fuel line : Nat) → Parse ShellCommand
  | 0, _ => Parse.fail .tooDeep
  | fuel + 1, line => do
    let nested := nestedAt fuel
    match ← token nested .plain with
    | .word parts =>
      let name := (Word.plain? parts).getD ""
      if !isName name then Parse.fail .badLoopVariable
      else
        let words ← match ← token nested .commandBelow with
          | .reserved "in" => do
            match ← wordList nested ((← get).rest.length + 2) with
            | (words, .newline) => do
              giveBack .newline
              pure words
            | (words, .operator ";") => pure words
            | (_, other) => unexpected other none
          | .operator ";" => pure [Word.arguments]
          | other => do
            giveBack other
            pure [Word.arguments]
        expectReserved nested .commandBelow "do"
        let body ← list fuel .filled none
        expectReserved nested .plain "done"
        pure (.each line name words (← required nested body))
    | _ => Parse.fail .badLoopVariable

/-- A choice behind its first word. -/
def choice : (fuel line : Nat) → Parse ShellCommand
  | 0, _ => Parse.fail .tooDeep
  | fuel + 1, line => do
    let nested := nestedAt fuel
    match ← token nested .plain with
    | .word subject => do
      expectReserved nested .commandBelow "in"
      let first ← token nested .patternBelow
      .choice line subject <$> cases fuel first
    | other => unexpected other (some (.word []))

/-- The cases of a choice, of which the first token has been read. -/
def cases : (fuel : Nat) → Token → Parse (List (List Word × Option ShellCommand))
  | 0, _ => Parse.fail .tooDeep
  | fuel + 1, first => do
    let nested := nestedAt fuel
    match first with
    | .reserved "esac" => pure []
    | first => do
      let first ← match first with
        | .operator "(" => token nested .plain
        | first => pure first
      let found ← patterns nested (fuel + 1) first
      let body ← list fuel .any none
      match ← token nested .patternBelow with
      | .reserved "esac" => pure [(found, body)]
      | .operator ";;" => do
        let next ← token nested .patternBelow
        pure ((found, body) :: (← cases fuel next))
      | other => unexpected other (some (.operator ";;"))

end

/-- The next complete command of a script. -/
def next : Parse Complete := do
  modify fun source => { source with returned := none, announced := [] }
  let fuel := 16 * (← get).rest.length + 64
  let found ← list fuel .line none
  let source ← get
  match found, source.returned with
  | none, some .ending => pure .ending
  | found, _ => pure (.command found)

end Grammar

end Runbook.Shell
