import SessionControl.Text.Blank

/-!
# Characters of YAML

## Main definitions

- `Yaml.isAllowed` — the characters that may stand in a text at all
- `Yaml.isBlank`, `Yaml.isBreak` — what separates words, and what separates lines
- `Yaml.isWordChar` — what the names of anchors, handles and directives are made of
- `Yaml.atBoundary`, `Yaml.atLineEnd` — places where a word or a line ends
- `Yaml.byteLength` — the length of a text in UTF-8
-/

namespace SessionControl.Yaml

/-- Code points that may stand in a text, as closed ranges. -/
def allowedRanges : List (Nat × Nat) :=
  [(0x9, 0xa), (0xd, 0xd), (0x20, 0x7e), (0x85, 0x85), (0xa0, 0xd7ff), (0xe000, 0xfffd),
   (0x10000, 0x10ffff)]

def isAllowed (c : Char) : Bool :=
  Text.inRanges allowedRanges c.toNat

def isBlank (c : Char) : Bool :=
  c = ' ' || c = '\t'

/-- A character that ends a line. A carriage return with a line feed after it ends one line. -/
def isBreak (c : Char) : Bool :=
  c = '\n' || c = '\r' || c = '\x85' || c = '\u2028' || c = '\u2029'

/-- What the end of a line counts as in a scalar: the separators of lines and paragraphs stay,
and every other break is a line feed. -/
def breakOf (c : Char) : Char :=
  if c = '\u2028' || c = '\u2029' then c else '\n'

/-- A character between words. -/
def isSeparator (c : Char) : Bool :=
  isBlank c || isBreak c

/-- An ASCII letter or digit, an underscore or a hyphen. -/
def isWordChar (c : Char) : Bool :=
  c.isAlphanum || c = '_' || c = '-'

/-- The place before `cs` is one where a word ends. -/
def atBoundary (cs : List Char) : Bool :=
  cs.head?.all isSeparator

/-- The place before `cs` is the end of a line. -/
def atLineEnd (cs : List Char) : Bool :=
  cs.head?.all isBreak

/-- The number of bytes of some characters in UTF-8. -/
def byteLength : List Char → Nat
  | [] => 0
  | c :: cs => c.utf8Size + byteLength cs

end SessionControl.Yaml
