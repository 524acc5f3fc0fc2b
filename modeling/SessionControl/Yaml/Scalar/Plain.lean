import SessionControl.Yaml.Scalar

/-!
# Scalars without quotes

A plain scalar goes on over blanks and lines until something that cannot be part of it.

## Main definitions

- `Yaml.readPlain` — the text of a plain scalar and the place where it ends
-/

namespace SessionControl.Yaml

/-- A character with a meaning of its own inside flow collections. -/
def isFlowMark (a : Char) : Bool :=
  a = ',' || a = '[' || a = ']' || a = '\x7b' || a = '\x7d'

/-- The word of a plain scalar at the front of a text. A colon ends it where a word ends after
the colon, and inside a flow collection (`flow`) the marks of such collections do. There, a colon
right before a mark is refused. -/
def plainWord? (flow : Bool) : List Char → Option (List Char)
  | [] => some []
  | a :: cs =>
    if isSeparator a then some []
    else if a = ':' && atBoundary cs then some []
    else if flow && a = ':' && cs.head?.any (fun b => isFlowMark b || b = '?') then none
    else if flow && isFlowMark a then some []
    else (plainWord? flow cs).map (a :: ·)

structure PlainEnd where
  /-- The text up to the end. -/
  text : List Char
  /-- The scalar is followed by the end of a line, which has been read. -/
  endsLine : Bool
  cursor : Cursor
  deriving Repr

/-- Reads a plain scalar from a word on, after a gap. The lines of a scalar outside of flow
collections begin at the column `least` or after it. -/
def readPlainAfter (flow : Bool) (least : Nat) (gap : Gap) (c : Cursor) : Option PlainEnd :=
  if c.atDocumentMark || c.isAt '#' then some ⟨[], gap.breaksLine, c⟩
  else match plainWord? flow c.rest with
    | none => none
    | some [] => some ⟨[], gap.breaksLine, c⟩
    | some word =>
      match readGap least .empty (c.skip word.length) with
      | none => none
      | some (next, c') =>
        if !flow && c'.column < least then some ⟨gap.text ++ word, next.breaksLine, c'⟩
        else if c'.rest.length < c.rest.length then
          (readPlainAfter flow least next c').map fun e =>
            { e with text := gap.text ++ word ++ e.text }
        else none
termination_by c.rest.length

def readPlain (flow : Bool) (least : Nat) (c : Cursor) : Option PlainEnd :=
  readPlainAfter flow least .empty c

end SessionControl.Yaml
