import SessionControl.Yaml.Character

/-!
# A place in a text

The structure of a YAML text depends on lines and columns, so a reader carries a place rather
than the rest of the text alone.

## Main definitions

- `Yaml.Cursor` — what is left to read, with its line and column
- `Cursor.skip`, `Cursor.skipBreak` — the place after some characters of a line, and on the next
  line
- `Cursor.finishLine?` — the next line, if nothing but a comment is left on this one

## Main statements

- `length_skip_lt`, `length_skipBreak_lt` — reading on leaves less to read
-/

namespace SessionControl.Yaml

/-- A place in a text. -/
structure Cursor where
  /-- The text from here on. -/
  rest : List Char
  /-- The number of bytes before this place, in UTF-8. -/
  offset : Nat := 0
  /-- The number of lines before this one. -/
  line : Nat := 0
  /-- The number of characters before this place on its line. -/
  column : Nat := 0
  deriving Repr

namespace Cursor

def ofText (s : String) : Cursor := { rest := s.toList }

def peek? (c : Cursor) : Option Char := c.rest.head?

def isAt (a : Char) (c : Cursor) : Bool := c.peek? == some a

def starts (cs : List Char) (c : Cursor) : Bool := cs.isPrefixOf c.rest

/-- The place after `n` characters of the line. -/
def skip (n : Nat) (c : Cursor) : Cursor :=
  { c with
    rest := c.rest.drop n
    offset := c.offset + byteLength (c.rest.take n)
    column := c.column + n }

/-- The beginning of the next line, from the end of a line. -/
def skipBreak (c : Cursor) : Cursor :=
  let width := if c.starts ['\r', '\n'] then 2 else 1
  { rest := c.rest.drop width
    offset := c.offset + byteLength (c.rest.take width)
    line := c.line + 1 }

/-- The characters up to the first one without a property, and the place before that one. -/
def takeWhile (p : Char → Bool) (c : Cursor) : List Char × Cursor :=
  let cs := c.rest.takeWhile p
  (cs, c.skip cs.length)

/-- The place before the first character without a property. -/
def skipWhile (p : Char → Bool) (c : Cursor) : Cursor :=
  (c.takeWhile p).2

/-- The break at the end of a line, if the text does not end there, and the place after it. -/
def takeBreak (c : Cursor) : Option Char × Cursor :=
  match c.peek? with
  | some a => if isBreak a then (some (breakOf a), c.skipBreak) else (none, c)
  | none => (none, c)

/-- The place after a comment that begins here, or this place. -/
def skipComment (c : Cursor) : Cursor :=
  if c.isAt '#' then c.skipWhile fun a => !isBreak a else c

/-- The beginning of the next line, if nothing but blanks and a comment is left on this one. -/
def finishLine? (c : Cursor) : Option Cursor :=
  let c := (c.skipWhile isBlank).skipComment
  if atLineEnd c.rest then some c.takeBreak.2 else none

/-- A line begins here with three hyphens or three points that stand alone: the mark for the
beginning or the end of a document. -/
def atDocumentMark (c : Cursor) : Bool :=
  c.column = 0 && (c.starts ['-', '-', '-'] || c.starts ['.', '.', '.']) &&
    atBoundary (c.rest.drop 3)

theorem length_skip_lt {n : Nat} {c : Cursor} (h : c.rest ≠ []) :
    (c.skip (n + 1)).rest.length < c.rest.length := by
  have := List.length_pos_iff.2 h
  simp only [skip, List.length_drop]
  omega

theorem length_skipBreak_lt {c : Cursor} (h : c.rest ≠ []) :
    c.skipBreak.rest.length < c.rest.length := by
  have := List.length_pos_iff.2 h
  simp only [skipBreak, List.length_drop]
  split <;> omega

end Cursor

end SessionControl.Yaml
