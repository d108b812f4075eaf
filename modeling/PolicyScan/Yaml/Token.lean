/-!
# Tokens of YAML

A text is a row of tokens.  Block collections have tokens of their own at the
places where the indentation grows and shrinks.
-/

namespace PolicyScan.Yaml

/-- A token. -/
inductive Token where
  | version (major minor : Nat)
  | tagHandle (handle expansion : List Char)
  | documentStart
  | documentEnd
  | blockSequenceStart
  | blockMappingStart
  | blockEnd
  | flowSequenceStart
  | flowSequenceEnd
  | flowMappingStart
  | flowMappingEnd
  | blockEntry
  | flowEntry
  | key
  | value
  | anchor (name : List Char)
  | alias (name : List Char)
  | tag (handle suffix : List Char)
  /-- A scalar; a plain one stands without quotes and indicators. -/
  | scalar (plain : Bool) (text : List Char)
deriving DecidableEq, Repr

/-- What is wrong with a YAML text. -/
inductive Fault where
  | characterNotAllowed
  | strayCharacter
  | keyWithoutColon
  | misplacedEntry
  | misplacedKey
  | misplacedValue
  | badDirective
  | badName
  | badTag
  | unclosedQuote
  | markInQuote
  | badEscape
  | ambiguousColon
  | tabAsIndentation
  | badBlockHeader
  | unexpectedToken
  | unknownTagHandle
  | unknownAnchor
  | nestedTooDeep
  | tooManyAliases
  | keyNotScalar
  | tagNotSupported
  | valueDoesNotFitTag
  | numberOutOfRange
deriving DecidableEq, Repr

/-- The fault in words. -/
def Fault.message : Fault → String
  | .characterNotAllowed => "control characters are not allowed"
  | .strayCharacter => "found character that cannot start any token"
  | .keyWithoutColon => "could not find expected ':'"
  | .misplacedEntry => "block sequence entries are not allowed in this context"
  | .misplacedKey => "mapping keys are not allowed in this context"
  | .misplacedValue => "mapping values are not allowed in this context"
  | .badDirective => "found a malformed directive"
  | .badName => "did not find expected alphabetic or numeric character"
  | .badTag => "found a malformed tag"
  | .unclosedQuote => "found unexpected end of stream in a quoted scalar"
  | .markInQuote => "found unexpected document indicator in a quoted scalar"
  | .badEscape => "found a malformed escape sequence"
  | .ambiguousColon => "found unexpected ':'"
  | .tabAsIndentation => "found a tab character that violates indentation"
  | .badBlockHeader => "found a malformed block scalar header"
  | .unexpectedToken => "did not find expected node content"
  | .unknownTagHandle => "found undefined tag handle"
  | .unknownAnchor => "unknown anchor"
  | .nestedTooDeep => "recursion limit exceeded"
  | .tooManyAliases => "repetition limit exceeded"
  | .keyNotScalar => "invalid type: expected a string key"
  | .tagNotSupported => "invalid type: enum"
  | .valueDoesNotFitTag => "invalid value for its tag"
  | .numberOutOfRange => "invalid type: integer out of range"

end PolicyScan.Yaml
