import SchemaGrammar.Yaml.Tag

/-!
# Tokens

The marks and scalars of a YAML text, with tokens for what indentation opens and closes.
-/

namespace SchemaGrammar.Yaml

/-- A token of a YAML text. -/
inductive Token where
  | directive (directive : Directive)
  | documentStart
  | documentEnd
  | blockSequenceStart
  | blockMappingStart
  /-- The end of what the last block token opened. -/
  | blockEnd
  | flowSequenceStart
  | flowSequenceEnd
  | flowMappingStart
  | flowMappingEnd
  | blockEntry
  | flowEntry
  | key
  | value
  | alias (name : List Char)
  | anchor (name : List Char)
  | tag (tag : TagSpelling)
  | scalar (plain : Bool) (text : List Char)

end SchemaGrammar.Yaml
