/-!
# YAML tokens

What a YAML text is cut into. The bounds of block collections, which the text shows by indentation
alone, are tokens like those of flow collections.
-/

namespace FormScript.Yaml

/-- How a scalar is written. -/
inductive ScalarStyle where
  | plain
  | singleQuoted
  | doubleQuoted
  | literal
  | folded
  deriving DecidableEq, Repr

/-- The name of a node's type, or a piece of one, in bytes: escapes can write bytes that no text holds. -/
abbrev Tag := List UInt8

/-- The tag that a text of ASCII characters is. -/
def Tag.ofAscii (s : String) : Tag := s.toList.map (·.toNat.toUInt8)

/-- A token of a YAML text. -/
inductive Token where
  | versionDirective (major minor : Nat)
  | tagDirective (handle : String) (lead : Tag)
  | documentStart
  | documentEnd
  | blockSequenceStart
  | blockMappingStart
  | blockEnd
  | flowSequenceStart
  | flowSequenceEnd
  | flowMappingStart
  | flowMappingEnd
  | blockEntry
  | flowEntry
  | key
  | value
  | anchor (name : String)
  | reference (name : String)
  | tag (handle : String) (suffix : Tag)
  | scalar (style : ScalarStyle) (text : String)
  deriving DecidableEq, Repr

end FormScript.Yaml
