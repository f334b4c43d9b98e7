/-!
# Yaml/Fault — what is wrong with a text that is not a YAML document
-/

namespace RamlExpress.Yaml

/-- Why a text is not one YAML document. -/
inductive Fault where
  | forbiddenCharacter
  | unexpectedCharacter
  | missingColon
  | misplacedEntry
  | misplacedKey
  | misplacedValue
  | malformedDirective
  | malformedAnchor
  | malformedTag
  | malformedEscape
  | malformedBlockHeader
  | tabInIndentation
  | markerInQuotes
  | endInQuotes
  | colonInFlow
  | documentStartExpected
  | unsupportedVersion
  | repeatedDirective
  | undefinedHandle
  | nodeExpected
  | entryExpected
  | keyExpected
  | separatorExpected
  | severalDocuments
  | unknownAlias
  | tooDeep
  | repeatedKey
  | valueOfOtherType
  | integerTooLarge
deriving Repr, DecidableEq

/-- The wording of a fault. -/
def Fault.message : Fault → String
  | forbiddenCharacter => "control characters are not allowed"
  | unexpectedCharacter => "found character that cannot start any token"
  | missingColon => "could not find expected ':'"
  | misplacedEntry => "block sequence entries are not allowed in this context"
  | misplacedKey => "mapping keys are not allowed in this context"
  | misplacedValue => "mapping values are not allowed in this context"
  | malformedDirective => "malformed directive"
  | malformedAnchor => "did not find expected alphabetic or numeric character"
  | malformedTag => "malformed tag"
  | malformedEscape => "malformed escape sequence in a quoted scalar"
  | malformedBlockHeader => "malformed block scalar header"
  | tabInIndentation => "found a tab character where an indentation space is expected"
  | markerInQuotes => "found unexpected document indicator"
  | endInQuotes => "found unexpected end of stream in a quoted scalar"
  | colonInFlow => "found unexpected ':'"
  | documentStartExpected => "did not find expected <document start>"
  | unsupportedVersion => "found incompatible YAML document"
  | repeatedDirective => "found duplicate directive"
  | undefinedHandle => "found undefined tag handle"
  | nodeExpected => "did not find expected node content"
  | entryExpected => "did not find expected '-' indicator"
  | keyExpected => "did not find expected key"
  | separatorExpected => "did not find expected ',' or closing bracket"
  | severalDocuments => "more than one document"
  | unknownAlias => "unknown anchor"
  | tooDeep => "recursion limit exceeded"
  | repeatedKey => "duplicate entry in a mapping"
  | valueOfOtherType => "value does not have the type its tag names"
  | integerTooLarge => "integer does not fit into 64 bits"

end RamlExpress.Yaml
