/-! # Arguments of commands

A command takes options, which start with two dashes, and operands. They may be mixed; after an
argument that is nothing but two dashes everything is an operand.

* **`Grammar`** — the options and operands that a command takes.
* **`Arguments`** — the options and operands that it was given.
* **`Grammar.read`** — reads arguments from left to right and stops at the first that does not fit. -/

namespace Runbook.Cli

/-- What is wrong with arguments. -/
inductive UsageError where
  /-- There is no command. -/
  | missingCommand
  /-- A command is not known. -/
  | unknownCommand (name : String)
  /-- An argument has no place. -/
  | unexpected (argument : String)
  /-- An option lacks its value. -/
  | missingValue (option : String)
  /-- A value is empty that must not be. -/
  | emptyValue (name : String)
  /-- An option has a value and takes none. -/
  | needlessValue (option : String)
  /-- An option is given twice and must not be. -/
  | repeated (option : String)
  /-- An operand is missing. -/
  | missingOperand (name : String)
  deriving DecidableEq, Repr

/-- The wording of an error. -/
def UsageError.message : UsageError → String
  | .missingCommand => "a command is required"
  | .unknownCommand name => "unrecognized command '" ++ name ++ "'"
  | .unexpected argument => "unexpected argument '" ++ argument ++ "'"
  | .missingValue option => "a value is required for '--" ++ option ++ "'"
  | .emptyValue name => "a value is required for '" ++ name ++ "' but it is empty"
  | .needlessValue option => "'--" ++ option ++ "' takes no value"
  | .repeated option => "'--" ++ option ++ "' cannot be used multiple times"
  | .missingOperand name => "'" ++ name ++ "' is required"

/-- Why arguments ask for no command. -/
inductive Refusal where
  /-- They ask for help. -/
  | help
  /-- They ask for the version. -/
  | version
  /-- They are wrong. -/
  | misuse (error : UsageError)
  deriving DecidableEq, Repr

/-- An option that a command takes. -/
structure OptionRule where
  /-- Its name, without the dashes. -/
  name : String
  /-- Whether it takes a value. -/
  valued : Bool
  /-- Whether it may be given more than once. -/
  repeatable : Bool
  /-- Whether its value may be empty. -/
  maybeEmpty : Bool
  deriving DecidableEq, Repr

/-- An operand that a command takes. -/
structure OperandRule where
  /-- What it is called. -/
  name : String
  /-- Whether it may be empty. -/
  maybeEmpty : Bool
  deriving DecidableEq, Repr

/-- The options and operands that a command takes. All operands are required. -/
structure Grammar where
  /-- The options. -/
  options : List OptionRule
  /-- The operands, in order. -/
  operands : List OperandRule
  deriving DecidableEq, Repr

/-- The options and operands that a command was given. -/
structure Arguments where
  /-- The options with their values, in order. The value of an option that takes none is empty. -/
  options : List (String × String)
  /-- The operands, in order. -/
  operands : List String
  deriving DecidableEq, Repr

namespace Arguments

/-- No arguments. -/
def empty : Arguments := ⟨[], []⟩

/-- Whether an option was given. -/
def has (given : Arguments) (name : String) : Bool := given.options.any fun entry => entry.1 == name

/-- The values of an option, in order. -/
def values (given : Arguments) (name : String) : List String :=
  (given.options.filter fun entry => entry.1 == name).map Prod.snd

/-- The value of an option that is given once at most. -/
def value? (given : Arguments) (name : String) : Option String := (given.values name).head?

/-- The operand at a position. -/
def operand (given : Arguments) (index : Nat) : String := given.operands.getD index ""

end Arguments

/-- What an argument is. -/
inductive Shape where
  /-- The end of the options. -/
  | terminator
  /-- An option, perhaps with a value after an equals sign. -/
  | option (name : String) (value : Option String)
  /-- Short options. -/
  | letters (letters : List Char)
  /-- An operand, or the value of the option before it. -/
  | plain
  deriving DecidableEq, Repr

/-- A text before and after its first equals sign. -/
def cutAtEquals (text : List Char) : List Char × Option (List Char) :=
  match text.span (· != '=') with
  | (before, []) => (before, none)
  | (before, _ :: after) => (before, some after)

/-- What an argument is. A single dash is no option. -/
def shapeOf (argument : String) : Shape :=
  match argument.toList with
  | ['-', '-'] => .terminator
  | '-' :: '-' :: rest =>
    let (name, value) := cutAtEquals rest
    .option (String.ofList name) (value.map String.ofList)
  | '-' :: c :: rest => .letters (c :: rest)
  | _ => .plain

namespace Grammar

/-- Adds an operand. -/
def addOperand (grammar : Grammar) (given : Arguments) (text : String) :
    Except Refusal Arguments :=
  match grammar.operands[given.operands.length]? with
  | none => .error (.misuse (.unexpected text))
  | some rule =>
    if text.isEmpty && !rule.maybeEmpty then .error (.misuse (.emptyValue rule.name))
    else .ok { given with operands := given.operands ++ [text] }

/-- Adds operands. -/
def addOperands (grammar : Grammar) : Arguments → List String → Except Refusal Arguments
  | given, [] => .ok given
  | given, text :: rest =>
    match grammar.addOperand given text with
    | .error refusal => .error refusal
    | .ok given => addOperands grammar given rest

/-- Adds an option. -/
def addOption (rule : OptionRule) (given : Arguments) (value : String) : Except Refusal Arguments :=
  if !rule.repeatable && given.has rule.name then .error (.misuse (.repeated rule.name))
  else if value.isEmpty && !rule.maybeEmpty then .error (.misuse (.emptyValue rule.name))
  else .ok { given with options := given.options ++ [(rule.name, value)] }

/-- Adds an option whose value, if there is one, is in the same argument. The other result is the
option that waits for its value in the next argument. -/
def openOption (grammar : Grammar) (given : Arguments) (name : String) (value : Option String) :
    Except Refusal (Arguments × Option OptionRule) :=
  if name = "help" && value.isNone then .error .help
  else
    match grammar.options.find? fun rule => rule.name == name with
    | none => .error (.misuse (.unexpected ("--" ++ name)))
    | some rule =>
      match rule.valued, value with
      | true, none => .ok (given, some rule)
      | true, some value => (addOption rule given value).map fun given => (given, none)
      | false, none => (addOption rule given "").map fun given => (given, none)
      | false, some _ => .error (.misuse (.needlessValue name))

/-- Reads arguments after `given`; `waiting` is the option that waits for its value. -/
def readAfter (grammar : Grammar) : (given : Arguments) → (waiting : Option OptionRule) →
    List String → Except Refusal Arguments
  | given, none, [] => .ok given
  | _, some rule, [] => .error (.misuse (.missingValue rule.name))
  | given, some rule, argument :: rest =>
    -- what starts with a dash is never a value
    match shapeOf argument with
    | .plain =>
      match addOption rule given argument with
      | .error refusal => .error refusal
      | .ok given => readAfter grammar given none rest
    | _ => .error (.misuse (.missingValue rule.name))
  | given, none, argument :: rest =>
    match shapeOf argument with
    -- from here on dashes mean nothing
    | .terminator => grammar.addOperands given rest
    | .option name value =>
      match grammar.openOption given name value with
      | .error refusal => .error refusal
      | .ok (given, waiting) => readAfter grammar given waiting rest
    | .letters letters =>
      .error (if letters.head? = some 'h' then .help else .misuse (.unexpected argument))
    | .plain =>
      match grammar.addOperand given argument with
      | .error refusal => .error refusal
      | .ok given => readAfter grammar given none rest

/-- Reads the arguments of a command. -/
def read (grammar : Grammar) (arguments : List String) : Except Refusal Arguments :=
  match grammar.readAfter .empty none arguments with
  | .error refusal => .error refusal
  | .ok given =>
    match grammar.operands[given.operands.length]? with
    | some rule => .error (.misuse (.missingOperand rule.name))
    | none => .ok given

end Grammar

end Runbook.Cli
