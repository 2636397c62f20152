import Runbook.Cli.Arguments

/-! # Requests

What the command line can be asked to do.

* **`Request`** — a command with all it needs to know.
* **`Request.ofArguments`** — the request that arguments make, or why they make none. -/

namespace Runbook.Cli

/-- Which section runs, and with what. -/
structure RunRequest where
  /-- The path of the document. -/
  file : String
  /-- The section, if one is asked for. -/
  chosen : Option String
  /-- The path of a saved store, if one is to be used. -/
  store : Option String
  /-- The assignments that the outputs start with. -/
  assignments : List String
  /-- Whether only the outputs are printed. -/
  json : Bool
  deriving DecidableEq, Repr

/-- What the command line is asked to do. -/
inductive Request where
  /-- Run a section. -/
  | run (request : RunRequest)
  /-- Review a section. -/
  | check (file : String) (chosen : Option String)
  /-- List the steps. -/
  | steps
  /-- Store a variable. -/
  | setVariable (name value : String)
  /-- Store a block. -/
  | setBlock (type name document : String)
  deriving DecidableEq, Repr

/-- An operand of any text. -/
def anyOperand (name : String) : OperandRule := ⟨name, true⟩

/-- The operand that names the document. -/
def fileOperand : OperandRule := ⟨"FILE", false⟩

/-- The option that chooses a section. -/
def sectionOption : OptionRule := ⟨"section", true, false, true⟩

/-- The arguments of the command that runs a section. -/
def runGrammar : Grammar where
  options := [sectionOption, ⟨"store", true, false, false⟩, ⟨"set", true, true, true⟩,
    ⟨"json", false, false, true⟩]
  operands := [fileOperand]

/-- The arguments of the command that reviews a section. -/
def checkGrammar : Grammar := ⟨[sectionOption], [fileOperand]⟩

/-- The arguments of the command that lists the steps. -/
def stepsGrammar : Grammar := ⟨[], []⟩

/-- The arguments of the command that stores a variable. -/
def variableGrammar : Grammar := ⟨[], [anyOperand "NAME", anyOperand "VALUE"]⟩

/-- The arguments of the command that stores a block. -/
def blockGrammar : Grammar :=
  ⟨[], [anyOperand "BLOCK_TYPE", anyOperand "NAME", anyOperand "DOCUMENT"]⟩

/-- The commands about which help can be asked for. -/
def topics : List (List String) :=
  [[], ["run"], ["check"], ["steps"], ["store"], ["store", "set-variable"], ["store", "set-block"],
    ["store", "help"], ["help"]]

/-- The answer to a question for help. -/
def helpOn (topic : List String) : Refusal :=
  if topic ∈ topics then .help else .misuse (.unknownCommand (topic.getLastD ""))

/-- The refusal of a word where a command should be. -/
def refuse (word : String) : Refusal :=
  match shapeOf word with
  | .option "help" none => .help
  | .letters ('h' :: _) => .help
  | .plain => .misuse (.unknownCommand word)
  | _ => .misuse (.unexpected word)

namespace Request

/-- The paths of the files that a request reads. -/
def files : Request → List String
  | .run request => request.file :: request.store.toList
  | .check file _ => [file]
  | .steps | .setVariable _ _ | .setBlock _ _ _ => []

/-- The request to run a section that arguments make. -/
def ofRun (given : Arguments) : Request :=
  .run {
    file := given.operand 0
    chosen := given.value? "section"
    store := given.value? "store"
    assignments := given.values "set"
    json := given.has "json" }

/-- The request about the store that arguments make. -/
def ofStoreArguments : List String → Except Refusal Request
  | [] => .error (.misuse .missingCommand)
  | "set-variable" :: rest =>
    (variableGrammar.read rest).map fun given => .setVariable (given.operand 0) (given.operand 1)
  | "set-block" :: rest =>
    (blockGrammar.read rest).map fun given =>
      .setBlock (given.operand 0) (given.operand 1) (given.operand 2)
  | "help" :: topic => .error (helpOn ("store" :: topic))
  | word :: _ => .error (refuse word)

/-- The request that arguments make. -/
def ofArguments : List String → Except Refusal Request
  | [] => .error (.misuse .missingCommand)
  | "run" :: rest => (runGrammar.read rest).map ofRun
  | "check" :: rest =>
    (checkGrammar.read rest).map fun given => .check (given.operand 0) (given.value? "section")
  | "steps" :: rest => (stepsGrammar.read rest).map fun _ => .steps
  | "store" :: rest => ofStoreArguments rest
  | "help" :: topic => .error (helpOn topic)
  | "--version" :: _ => .error .version
  | word :: _ => .error (if (shapeOf word matches .letters ('V' :: _)) then .version else refuse word)

end Request

end Runbook.Cli
