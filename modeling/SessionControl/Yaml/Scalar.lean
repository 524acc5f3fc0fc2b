import SessionControl.Text.Digits
import SessionControl.Yaml.Cursor

/-!
# Scalars

## Main definitions

- `Yaml.Scalar` — a text, how it was written, and its tag
- `Scalar.natural?`, `Scalar.bool?`, `Scalar.isNull?` — what a scalar stands for
- `Yaml.Gap` — what separates two words of a scalar, and the text that it contributes
-/

namespace SessionControl.Yaml

/-! ## What a scalar says -/

inductive ScalarStyle where
  | plain
  | singleQuoted
  | doubleQuoted
  | literal
  | folded
  deriving DecidableEq, Repr

/-- A scalar: its text, the way it was written, and its full tag. -/
structure Scalar where
  text : String
  style : ScalarStyle := .plain
  tag : Option String := none
  deriving DecidableEq, Repr

namespace Scalar

/-- The full tag of a core type. -/
def coreTag (name : String) : String := "tag:yaml.org,2002:" ++ name

/-- A scalar that is written as nothing at all. -/
def isEmpty (s : Scalar) : Bool :=
  s.style = .plain && s.text.isEmpty

/-- The text of a scalar that may stand for a value of the core type `name`: a plain one, or a
literal one with the tag of that type. -/
def token? (name : String) (s : Scalar) : Option String :=
  match s.style with
  | .plain => some s.text
  | .literal => if s.tag = some (coreTag name) then some s.text else none
  | _ => none

/-- The number written by an unsigned integer: digits with a mark for the base sixteen, eight or
two, or decimal digits without leading zeros. -/
def unsigned? : List Char → Option Nat
  | '0' :: 'x' :: cs => Text.numberOf? 16 cs
  | '0' :: 'o' :: cs => Text.numberOf? 8 cs
  | '0' :: 'b' :: cs => Text.numberOf? 2 cs
  | '0' :: _ :: _ => none
  | cs => Text.numberOf? 10 cs

/-- The number below `bound` that a scalar stands for. It may have a plus sign. -/
def natural? (bound : Nat) (s : Scalar) : Option Nat := do
  let n ← match (← s.token? "int").toList with
    | '+' :: cs => unsigned? cs
    | cs => unsigned? cs
  if n < bound then some n else none

def bool? (s : Scalar) : Option Bool := do
  let text ← s.token? "bool"
  if text ∈ ["true", "True", "TRUE"] then some true
  else if text ∈ ["false", "False", "FALSE"] then some false
  else none

/-- Whether a scalar stands for no value. Only a plain one can, by its text; one with the tag for
no value has to, and one with another tag, be it a lone exclamation mark, does not. -/
def isNull? (s : Scalar) : Option Bool :=
  let written := s.text ∈ ["null", "Null", "NULL", "~"]
  if s.style ≠ .plain then some false
  else match s.tag with
    | none => some (s.text.isEmpty || written)
    | some tag => if tag = coreTag "null" then (if written then some true else none) else some false

end Scalar

/-! ## Gaps between words -/

/-- What separates two words of a scalar: blanks on one line, or breaks, the first of which may
be escaped. Blanks next to a break do not count. -/
inductive Gap where
  | blanks (cs : List Char)
  | breaks (first : Option Char) (more : List Char)
  deriving DecidableEq, Repr

namespace Gap

def empty : Gap := .blanks []

/-- The gap goes over the end of a line. -/
def breaksLine : Gap → Bool
  | blanks _ => false
  | breaks _ _ => true

def addBlank (a : Char) : Gap → Gap
  | blanks cs => .blanks (cs ++ [a])
  | breaks first more => .breaks first more

def addBreak (b : Char) : Gap → Gap
  | blanks _ => .breaks (some b) []
  | breaks first more => .breaks first (more ++ [b])

/-- The text that a gap contributes. A single line feed is folded into a space, and of several
breaks the first line feed is left out. -/
def text : Gap → List Char
  | blanks cs => cs
  | breaks (some '\n') [] => [' ']
  | breaks (some '\n') more => more
  | breaks first more => first.toList ++ more

end Gap

/-- Reads on in a gap. A tab at the beginning of a line before the column `least` is refused. -/
def readGap (least : Nat) (gap : Gap) (c : Cursor) : Option (Gap × Cursor) :=
  match _ : c.rest with
  | [] => some (gap, c)
  | a :: _ =>
    if isBlank a then
      if gap.breaksLine && a = '\t' && c.column < least then none
      else readGap least (gap.addBlank a) (c.skip 1)
    else if isBreak a then readGap least (gap.addBreak (breakOf a)) c.skipBreak
    else some (gap, c)
termination_by c.rest.length
decreasing_by
  · exact Cursor.length_skip_lt (by simp_all)
  · exact Cursor.length_skipBreak_lt (by simp_all)

end SessionControl.Yaml
