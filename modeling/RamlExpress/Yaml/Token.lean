/-!
# Yaml/Token — the tokens of a YAML stream

The end of the stream is the end of the token list.
-/

namespace RamlExpress.Yaml

/-- A token.  Block collections have tokens for their start and end, which indentation implies. -/
inductive Token where
  | version (major minor : Nat)
  | tagHandle (handle : String) (start : List UInt8)
  | documentStart
  | documentEnd
  | blockSequence
  | blockMapping
  | blockEnd
  | flowSequence
  | flowSequenceEnd
  | flowMapping
  | flowMappingEnd
  | blockEntry
  | flowEntry
  | key
  | value
  | reference (name : String)
  | anchor (name : String)
  | tag (handle : String) (rest : List UInt8)
  | scalar (text : String) (plain : Bool)
deriving Repr, DecidableEq

end RamlExpress.Yaml
