import StartupConfig.Text.Quoted
import StartupConfig.Number.Shortest
import StartupConfig.Yaml.Cursor
import StartupConfig.Yaml.Untagged

/-!
# Faults in documents

A document is refused because it is malformed, or because it is not the value that is wanted. A malformed
place is told with what was being read there and where that began. The first place of a document is never
told.
-/
namespace StartupConfig.Yaml

/-- What is wrong at a place of a malformed document. -/
inductive Problem
  | keyWithoutColon
  | misplacedItem
  | misplacedKey
  | misplacedValue
  | noToken
  | documentSign
  | endOfText
  | unknownEscape
  | noHexDigit
  | noCharacter
  | plainColon
  | plainTab
  | zeroMargin
  | noLineEnd
  | marginTab
  | noName
  | noTagUri
  | noTagEnd
  | noTagSign
  | noBlankOrEnd
  | noBlank
  | noEscapedOctet
  | leadingOctet
  | trailingOctet
  | noDirective
  | directiveName
  | unknownDirective
  | noVersion
  | noVersionPoint
  | longVersion
  | wrongVersion
  | repeatedVersion
  | repeatedHandle
  | undefinedHandle
  | noDocumentStart
  | noNode
  | noItem
  | noKey
  | noListEnd
  | noRecordEnd
  deriving DecidableEq, Repr

/-- The wording of a problem. -/
def Problem.message : Problem → String
  | .keyWithoutColon => "could not find expected ':'"
  | .misplacedItem => "block sequence entries are not allowed in this context"
  | .misplacedKey => "mapping keys are not allowed in this context"
  | .misplacedValue => "mapping values are not allowed in this context"
  | .noToken => "found character that cannot start any token"
  | .documentSign => "found unexpected document indicator"
  | .endOfText => "found unexpected end of stream"
  | .unknownEscape => "found unknown escape character"
  | .noHexDigit => "did not find expected hexadecimal number"
  | .noCharacter => "found invalid Unicode character escape code"
  | .plainColon => "found unexpected ':'"
  | .plainTab => "found a tab character that violates indentation"
  | .zeroMargin => "found an indentation indicator equal to 0"
  | .noLineEnd => "did not find expected comment or line break"
  | .marginTab => "found a tab character where an indentation space is expected"
  | .noName => "did not find expected alphabetic or numeric character"
  | .noTagUri => "did not find expected tag URI"
  | .noTagEnd => "did not find the expected '>'"
  | .noTagSign => "did not find expected '!'"
  | .noBlankOrEnd => "did not find expected whitespace or line break"
  | .noBlank => "did not find expected whitespace"
  | .noEscapedOctet => "did not find URI escaped octet"
  | .leadingOctet => "found an incorrect leading UTF-8 octet"
  | .trailingOctet => "found an incorrect trailing UTF-8 octet"
  | .noDirective => "could not find expected directive name"
  | .directiveName => "found unexpected non-alphabetical character"
  | .unknownDirective => "found unknown directive name"
  | .noVersion => "did not find expected version number"
  | .noVersionPoint => "did not find expected digit or '.' character"
  | .longVersion => "found extremely long version number"
  | .wrongVersion => "found incompatible YAML document"
  | .repeatedVersion => "found duplicate %YAML directive"
  | .repeatedHandle => "found duplicate %TAG directive"
  | .undefinedHandle => "found undefined tag handle"
  | .noDocumentStart => "did not find expected <document start>"
  | .noNode => "did not find expected node content"
  | .noItem => "did not find expected '-' indicator"
  | .noKey => "did not find expected key"
  | .noListEnd => "did not find expected ',' or ']'"
  | .noRecordEnd => "did not find expected ',' or '\x7d'"

/-- What was being read where a problem was found. -/
inductive Context
  | token
  | simpleKey
  | quoted
  | quotedEscape
  | plain
  | block
  | anchor
  | alias
  | tag
  | tagUri
  | directive
  | versionDirective
  | tagDirective
  | tagDirectiveUri
  | tagDirectiveSign
  | tagDirectiveHandle
  | node
  | blockNode
  | flowNode
  | blockList
  | blockRecord
  | flowList
  | flowRecord
  deriving DecidableEq, Repr

/-- The wording of a context. -/
def Context.message : Context → String
  | .token => "while scanning for the next token"
  | .simpleKey => "while scanning a simple key"
  | .quoted => "while scanning a quoted scalar"
  | .quotedEscape => "while parsing a quoted scalar"
  | .plain => "while scanning a plain scalar"
  | .block => "while scanning a block scalar"
  | .anchor => "while scanning an anchor"
  | .alias => "while scanning an alias"
  | .tag => "while scanning a tag"
  | .tagUri => "while parsing a tag"
  | .directive => "while scanning a directive"
  | .versionDirective => "while scanning a %YAML directive"
  | .tagDirective => "while scanning a %TAG directive"
  | .tagDirectiveUri => "while parsing a %TAG directive"
  | .tagDirectiveSign => "while scanning a tag directive"
  | .tagDirectiveHandle => "while parsing a tag directive"
  | .node => "while parsing a node"
  | .blockNode => "while parsing a block node"
  | .flowNode => "while parsing a flow node"
  | .blockList => "while parsing a block collection"
  | .blockRecord => "while parsing a block mapping"
  | .flowList => "while parsing a flow sequence"
  | .flowRecord => "while parsing a flow mapping"

/-- What was found where something else was wanted. -/
inductive Found
  | untagged (value : Untagged) (text : List Char)
  | list
  | record
  deriving DecidableEq, Repr

/-- Floating-point numbers are written positionally, whatever their size; a tie goes away from zero. -/
def floatStyle : Binary64.Style := ⟨.away, -400, 400⟩

/-- The ranges of integers that are told without their width. -/
def isShortInteger (z : Int) : Bool :=
  decide ((IntegerType.unsigned 64).Contains z) || decide ((IntegerType.signed 64).Contains z)

/-- The wording of what was found. -/
def Found.message : Found → List Char
  | .untagged .null _ => "unit value".toList
  | .untagged (.boolean value) _ => "boolean `".toList ++ (if value then "true`" else "false`").toList
  | .untagged (.integer value) _ =>
    "integer `".toList ++ Decimal.render value ++ '\x60' ::
      (if isShortInteger value then []
        else if value < 0 then " as i128".toList else " as u128".toList)
  | .untagged (.float value) _ => "floating point `".toList ++ value.render floatStyle ++ ['\x60']
  | .untagged (.infinite negative) _ =>
    "floating point `".toList ++ (if negative then "-inf`" else "inf`").toList
  | .untagged .notANumber _ => "floating point `NaN`".toList
  | .untagged .text text => "string ".toList ++ Quoted.quote text
  | .list => "sequence".toList
  | .record => "map".toList

/-- Why a value is not the one that is wanted. -/
inductive Cause
  | wrongType (found : Found) (wanted : String)
  | wrongText (text : List Char) (wanted : String)
  | missingField (name : String)
  | repeatedField (name : String)
  | unknownKind (name : List Char)
  deriving DecidableEq, Repr

/-- The wording of a cause. -/
def Cause.message : Cause → List Char
  | .wrongType found wanted =>
    "invalid type: ".toList ++ found.message ++ ", expected ".toList ++ wanted.toList
  | .wrongText text wanted =>
    "invalid value: string ".toList ++ Quoted.quote text ++ ", expected ".toList ++ wanted.toList
  | .missingField name => "missing field `".toList ++ name.toList ++ ['\x60']
  | .repeatedField name => "duplicate field `".toList ++ name.toList ++ ['\x60']
  | .unknownKind name =>
    "unknown variant `".toList ++ name ++ "`, expected `string` or `integer`".toList

/-- Why a document is refused. -/
inductive Stop
  | forbiddenCharacter (offset : Nat)
  | malformed (problem : Problem) (mark : Mark) (context : Option (Context × Mark))
  | unknownAnchor (mark : Mark)
  | severalDocuments
  | endOfValue
  | unfit (path : List Char) (cause : Cause) (mark : Option Mark)
  deriving DecidableEq, Repr

/-- The wording of a place, counted from one; nothing for the first place. -/
def Mark.message (m : Mark) : List Char :=
  if m.isFirst then []
  else
    " at line ".toList ++ Decimal.renderNat (m.line + 1) ++ " column ".toList
      ++ Decimal.renderNat (m.column + 1)

namespace Stop

/-- The wording of what was being read; its beginning is told unless it is the place of the problem. -/
def contextMessage (mark : Mark) : Option (Context × Mark) → List Char
  | none => []
  | some (context, start) =>
    ", ".toList ++ context.message.toList ++ (if start.meets mark then [] else start.message)

/-- The wording of a fault. -/
def message : Stop → List Char
  | .forbiddenCharacter offset =>
    "control characters are not allowed".toList
      ++ (if offset = 0 then [] else " at position ".toList ++ Decimal.renderNat offset)
  | .malformed problem mark context =>
    problem.message.toList ++ mark.message ++ contextMessage mark context
  | .unknownAnchor mark => "unknown anchor".toList ++ mark.message
  | .severalDocuments =>
    "deserializing from YAML containing more than one document is not supported".toList
  | .endOfValue => "EOF while parsing a value".toList
  | .unfit path cause mark =>
    (if path.isEmpty then [] else path ++ ": ".toList) ++ cause.message
      ++ (match mark with | none => [] | some m => m.message)

/-- A problem while something was being read that began at a mark. -/
def within (context : Context) (start : Mark) (problem : Problem) (mark : Mark) : Stop :=
  .malformed problem mark (some (context, start))

/-- A problem on its own. -/
def plain (problem : Problem) (mark : Mark) : Stop := .malformed problem mark none

end Stop

end StartupConfig.Yaml
