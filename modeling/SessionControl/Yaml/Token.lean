import SessionControl.Yaml.Directive
import SessionControl.Yaml.Scalar

/-!
# Tokens

The marks that a text consists of. Collections that the text shows by indentation alone have
tokens for their beginning and end like those in brackets, and so has the key of a member.

## Main definitions

- `Yaml.Token` — one mark
-/

namespace SessionControl.Yaml

/-- A token of a text. -/
inductive Token where
  | directive (d : Directive)
  | documentStart
  | documentEnd
  | blockSequenceStart
  | blockMappingStart
  /-- The end of a collection shown by indentation. -/
  | blockEnd
  /-- A hyphen before an element. -/
  | blockEntry
  | flowSequenceStart
  | flowSequenceEnd
  | flowMappingStart
  | flowMappingEnd
  /-- A comma. -/
  | flowEntry
  | key
  | value
  | alias (name : String)
  | anchor (name : String)
  | tag (t : Tag)
  | scalar (text : String) (style : ScalarStyle)
  deriving DecidableEq, Repr

end SessionControl.Yaml
