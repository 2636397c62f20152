import Runbook.Decoding
import Runbook.Yaml.Cursor

/-! # What can be wrong with a YAML text

* **`Complaint`** — what is wrong at a place of a text that is no YAML text.
* **`Activity`** — what was being read there.
* **`Trail`** — the way from the whole of a document to one of its nodes.
* **`Fault`** — why a text does not hold what is asked for, with its wording. -/

namespace Runbook.Yaml

/-- What is wrong at a place of a text. -/
inductive Complaint where
  /-- No token starts with the character that stands there. -/
  | unknownToken
  /-- A key is not followed by a colon. -/
  | missingColon
  /-- A dash cannot stand there. -/
  | misplacedDash
  /-- The mark of a key cannot stand there. -/
  | misplacedKey
  /-- A colon cannot stand there. -/
  | misplacedColon
  /-- A directive has no name. -/
  | noDirectiveName
  /-- The name of a directive is followed by something else than a blank. -/
  | badDirectiveName
  /-- There is no directive of a name. -/
  | unknownDirective
  /-- A line does not end where it must. -/
  | noLineEnd
  /-- A part of a version has more than nine digits. -/
  | longVersion
  /-- A part of a version is missing. -/
  | noVersion
  /-- A version has no second part. -/
  | noVersionDot
  /-- A handle has no exclamation mark. -/
  | noExclamation
  /-- A blank is missing. -/
  | noBlank
  /-- A blank or a line end is missing. -/
  | noBlankOrBreak
  /-- A tag has no text. -/
  | noTagText
  /-- A percent sign is not followed by two digits. -/
  | noOctet
  /-- A byte begins no character. -/
  | badLeadingOctet
  /-- A byte does not go on with a character. -/
  | badTrailingOctet
  /-- An anchor or an alias has no proper name. -/
  | noName
  /-- A tag in angle brackets is not closed. -/
  | noClosingAngle
  /-- The lines of a block scalar cannot be indented by nothing. -/
  | zeroIndentation
  /-- A tab stands among the spaces that indent a line of a block scalar. -/
  | tabIndentation
  /-- A tab stands left of where a plain scalar may go on. -/
  | misindentedTab
  /-- A document starts or ends within a quoted scalar. -/
  | quotedMarker
  /-- A quoted scalar is not closed. -/
  | unclosedQuote
  /-- An escape in a quoted scalar means nothing. -/
  | unknownEscape
  /-- An escape by number lacks digits. -/
  | noEscapeDigits
  /-- The number of an escape is that of no character. -/
  | badEscapeCode
  /-- A colon stands before a mark of a collection in brackets or braces. -/
  | crowdedColon
  /-- A document does not start where it must. -/
  | missingStart
  /-- The version of the language is not supported. -/
  | unsupportedVersion
  /-- The version of the language is given twice. -/
  | repeatedVersion
  /-- A handle is declared twice. -/
  | repeatedHandle
  /-- A tag begins with a handle that was not declared. -/
  | unknownHandle
  /-- A node is missing. -/
  | missingNode
  /-- A block sequence goes on without a dash. -/
  | missingDash
  /-- A block mapping goes on without a key. -/
  | missingKey
  /-- A sequence in brackets goes on without a comma. -/
  | missingBracket
  /-- A mapping in braces goes on without a comma. -/
  | missingBrace
  deriving DecidableEq, Repr

/-- The wording of a complaint. -/
def Complaint.message : Complaint → String
  | .unknownToken => "found character that cannot start any token"
  | .missingColon => "could not find expected ':'"
  | .misplacedDash => "block sequence entries are not allowed in this context"
  | .misplacedKey => "mapping keys are not allowed in this context"
  | .misplacedColon => "mapping values are not allowed in this context"
  | .noDirectiveName => "could not find expected directive name"
  | .badDirectiveName => "found unexpected non-alphabetical character"
  | .unknownDirective => "found unknown directive name"
  | .noLineEnd => "did not find expected comment or line break"
  | .longVersion => "found extremely long version number"
  | .noVersion => "did not find expected version number"
  | .noVersionDot => "did not find expected digit or '.' character"
  | .noExclamation => "did not find expected '!'"
  | .noBlank => "did not find expected whitespace"
  | .noBlankOrBreak => "did not find expected whitespace or line break"
  | .noTagText => "did not find expected tag URI"
  | .noOctet => "did not find URI escaped octet"
  | .badLeadingOctet => "found an incorrect leading UTF-8 octet"
  | .badTrailingOctet => "found an incorrect trailing UTF-8 octet"
  | .noName => "did not find expected alphabetic or numeric character"
  | .noClosingAngle => "did not find the expected '>'"
  | .zeroIndentation => "found an indentation indicator equal to 0"
  | .tabIndentation => "found a tab character where an indentation space is expected"
  | .misindentedTab => "found a tab character that violates indentation"
  | .quotedMarker => "found unexpected document indicator"
  | .unclosedQuote => "found unexpected end of stream"
  | .unknownEscape => "found unknown escape character"
  | .noEscapeDigits => "did not find expected hexdecimal number"
  | .badEscapeCode => "found invalid Unicode character escape code"
  | .crowdedColon => "found unexpected ':'"
  | .missingStart => "did not find expected <document start>"
  | .unsupportedVersion => "found incompatible YAML document"
  | .repeatedVersion => "found duplicate %YAML directive"
  | .repeatedHandle => "found duplicate %TAG directive"
  | .unknownHandle => "found undefined tag handle"
  | .missingNode => "did not find expected node content"
  | .missingDash => "did not find expected '-' indicator"
  | .missingKey => "did not find expected key"
  | .missingBracket => "did not find expected ',' or ']'"
  | .missingBrace => "did not find expected ',' or '\x7d'"

/-- What is being read. -/
inductive Activity where
  /-- A token, of which nothing is known yet. -/
  | token
  /-- A token that must turn out to begin a key. -/
  | simpleKey
  /-- A directive. -/
  | directive
  /-- The version in a directive. -/
  | version
  /-- The abbreviation in a directive. -/
  | abbreviation
  /-- What the handle in a directive abbreviates. -/
  | expansion
  /-- The beginning of the handle in a directive. -/
  | declaredHandle
  /-- The end of the handle in a directive. -/
  | declaredHandleEnd
  /-- An anchor. -/
  | anchor
  /-- The name of an earlier node. -/
  | reference
  /-- A tag. -/
  | tag
  /-- The text of a tag. -/
  | tagText
  /-- A block scalar. -/
  | blockScalar
  /-- A quoted scalar. -/
  | quotedScalar
  /-- An escape in a quoted scalar. -/
  | escape
  /-- A plain scalar. -/
  | plainScalar
  /-- A node, of which the tag is known. -/
  | node
  /-- A node that may be a block collection. -/
  | blockNode
  /-- A node that may not. -/
  | flowNode
  /-- A block sequence. -/
  | blockSequence
  /-- A block mapping. -/
  | blockMapping
  /-- A sequence in brackets. -/
  | flowSequence
  /-- A mapping in braces. -/
  | flowMapping
  deriving DecidableEq, Repr

/-- The wording of what is being read. -/
def Activity.phrase : Activity → String
  | .token => "while scanning for the next token"
  | .simpleKey => "while scanning a simple key"
  | .directive => "while scanning a directive"
  | .version => "while scanning a %YAML directive"
  | .abbreviation => "while scanning a %TAG directive"
  | .expansion => "while parsing a %TAG directive"
  | .declaredHandle => "while scanning a tag directive"
  | .declaredHandleEnd => "while parsing a tag directive"
  | .anchor => "while scanning an anchor"
  | .reference => "while scanning an alias"
  | .tag => "while scanning a tag"
  | .tagText => "while parsing a tag"
  | .blockScalar => "while scanning a block scalar"
  | .quotedScalar => "while scanning a quoted scalar"
  | .escape => "while parsing a quoted scalar"
  | .plainScalar => "while scanning a plain scalar"
  | .node => "while parsing a node"
  | .blockNode => "while parsing a block node"
  | .flowNode => "while parsing a flow node"
  | .blockSequence => "while parsing a block collection"
  | .blockMapping => "while parsing a block mapping"
  | .flowSequence => "while parsing a flow sequence"
  | .flowMapping => "while parsing a flow mapping"

/-- A step from a collection to what it holds. -/
inductive TrailStep where
  /-- To an item of a sequence. -/
  | item (index : Nat)
  /-- To the value of a key. -/
  | member (key : String)
  /-- To the value of a key that is written as something else than a scalar. -/
  | unnamed
  deriving DecidableEq, Repr

/-- The way from the whole of a document to one of its nodes, the last step first. -/
abbrev Trail := List TrailStep

namespace Trail

/-- The text of a way; the whole is a dot. -/
def text : Trail → String
  | [] => "."
  | .item index :: rest => text rest ++ "[" ++ toString index ++ "]"
  | [.member key] => key
  | .member key :: rest => text rest ++ "." ++ key
  | [.unnamed] => "?"
  | .unnamed :: rest => text rest ++ ".?"

/-- The beginning of an error about a node: where it is, unless that is the whole. -/
def heading (trail : Trail) : String := if trail.text = "." then "" else trail.text ++ ": "

end Trail

/-- Why a text does not hold what is asked for. -/
inductive Fault where
  /-- A control character stands in the text, behind so many bytes. -/
  | controlCharacter (offset : Nat)
  /-- Something is wrong at a place while what begins at another one is read. -/
  | malformed (complaint : Complaint) (place : Mark) (context : Option (Activity × Mark))
  /-- An alias names no earlier node. -/
  | unknownAnchor (place : Mark)
  /-- The text holds more than one document. -/
  | severalDocuments
  /-- Collections nest too deep. -/
  | tooDeep (place : Mark)
  /-- Aliases repeat too much. -/
  | tooManyAliases
  /-- A node is not what is asked for. -/
  | unfit (error : DecodeError) (trail : Trail) (place : Mark)
  deriving DecidableEq, Repr

/-- The wording of a fault. -/
def Fault.message : Fault → String
  | .controlCharacter offset =>
    "control characters are not allowed"
      ++ (if offset = 0 then "" else " at position " ++ toString offset)
  | .malformed complaint place context =>
    complaint.message ++ place.phrase
      ++ match context with
        | none => ""
        | some (activity, start) =>
          ", " ++ activity.phrase ++ (if start = place then "" else start.phrase)
  | .unknownAnchor place => "unknown anchor" ++ place.phrase
  | .severalDocuments =>
    "deserializing from YAML containing more than one document is not supported"
  | .tooDeep place => "recursion limit exceeded" ++ place.phrase
  | .tooManyAliases => "repetition limit exceeded"
  | .unfit error trail place => trail.heading ++ error.message ++ place.phrase

/-- The fault that a cursor stands at, while what begins at a mark is read. -/
def Cursor.fault (cursor : Cursor) (complaint : Complaint) (activity : Activity) (start : Mark) :
    Fault :=
  .malformed complaint cursor.mark (some (activity, start))

end Runbook.Yaml
