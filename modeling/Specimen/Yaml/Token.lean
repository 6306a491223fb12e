/-!
# Tokens

A text is a sequence of tokens. The structure that lines and columns give to it
has become tokens of its own: where a block collection starts and ends, and where
a key and its value stand.
-/

namespace Specimen.Yaml

/-- How a scalar is written. -/
inductive Style where
  | plain
  | quoted
  | literal
  | folded
deriving DecidableEq

/-- A part of a text. -/
inductive Token where
  /-- The directive that names the version of the language. -/
  | version (major minor : Nat)
  /-- The directive that says what a handle of tags stands for. -/
  | handle (name meaning : String)
  | documentStart
  | documentEnd
  | blockSequenceStart
  | blockMappingStart
  | blockEnd
  | flowSequenceStart
  | flowSequenceEnd
  | flowMappingStart
  | flowMappingEnd
  | blockEntry
  | flowEntry
  | key
  | value
  | reference (name : String)
  | anchor (name : String)
  | tag (handle suffix : String)
  | scalar (text : String) (style : Style)
deriving DecidableEq

end Specimen.Yaml
