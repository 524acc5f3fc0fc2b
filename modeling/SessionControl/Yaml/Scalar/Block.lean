import SessionControl.Yaml.Scalar

/-!
# Scalars in blocks

A block scalar is a run of indented lines after a header. A literal one keeps its line breaks;
in a folded one, a single break between lines that begin with a word counts as a space.

## Main definitions

- `Yaml.Chomp` — what becomes of the breaks at the end
- `Yaml.readBlock` — the text of a block scalar, from the place after its indicator
-/

namespace SessionControl.Yaml

/-- What becomes of the breaks at the end of a block scalar. -/
inductive Chomp where
  /-- There is none. -/
  | strip
  /-- There is one at most. -/
  | clip
  /-- All of them stay. -/
  | keep
  deriving DecidableEq, Repr

/-! ## The header -/

/-- The sign for the end of the scalar, if it comes next. -/
def readChomp (c : Cursor) : Option Chomp × Cursor :=
  match c.peek? with
  | some '-' => (some .strip, c.skip 1)
  | some '+' => (some .keep, c.skip 1)
  | _ => (none, c)

/-- The digit for the indentation, if a digit comes next. It is not zero. -/
def readIncrement (c : Cursor) : Option (Option Nat × Cursor) :=
  match c.peek?.bind (Text.digitValue? 10) with
  | none => some (none, c)
  | some 0 => none
  | some n => some (some n, c.skip 1)

/-- The sign and the digit of a header, in either order, and the beginning of the first line. -/
def readHeader (c : Cursor) : Option (Chomp × Option Nat × Cursor) := do
  let (before, c) := readChomp c
  let (increment, c) ← readIncrement c
  let (after, c) := if before.isNone then readChomp c else (none, c)
  let c ← c.finishLine?
  pure ((before <|> after).getD .clip, increment, c)

/-! ## The lines -/

/-- Reads lines without content: their breaks, the widest indentation, and the place where
content may begin. The content begins at the column `indent`, if that is known; a tab before it
is refused. -/
def readEmptyLines (indent : Option Nat) (widest : Nat) (c : Cursor) :
    Option (List Char × Nat × Cursor) :=
  let spaces := (c.rest.takeWhile (· = ' ')).length
  let place := c.skip (indent.elim spaces fun n => min spaces (n - c.column))
  let widest := max widest place.column
  if place.isAt '\t' && indent.all (place.column < ·) then none
  else match place.takeBreak with
    | (none, c) => some ([], widest, c)
    | (some b, next) =>
      if next.rest.length < c.rest.length then
        (readEmptyLines indent widest next).map fun (bs, r) => (b :: bs, r)
      else none
termination_by c.rest.length

/-- What comes before a line of content. -/
structure BlockGap where
  /-- The break at the end of the line of content before it. -/
  first : Option Char := none
  /-- The breaks of the lines without content since then. -/
  more : List Char
  /-- The line of content before it began with a blank. -/
  afterBlank : Bool := false
  deriving Repr

/-- The text that a gap contributes before a line that begins with a blank or not. A gap after a
line feed is folded between two lines that do not begin with a blank. -/
def BlockGap.text (folded blank : Bool) (g : BlockGap) : List Char :=
  if folded && g.first == some '\n' && !g.afterBlank && !blank then
    (Gap.breaks g.first g.more).text
  else g.first.toList ++ g.more

/-- The text of the gap at the end. -/
def BlockGap.chomped (chomp : Chomp) (g : BlockGap) : List Char :=
  match chomp with
  | .strip => []
  | .clip => g.first.toList
  | .keep => g.first.toList ++ g.more

/-- Reads the lines of content that begin at the column `indent`. -/
def readLines (folded : Bool) (chomp : Chomp) (indent : Nat) (g : BlockGap) (c : Cursor) :
    Option (List Char × Cursor) :=
  if c.column ≠ indent || c.rest.isEmpty then some (g.chomped chomp, c)
  else
    let blank := c.peek?.any isBlank
    let (line, lineEnd) := c.takeWhile fun a => !isBreak a
    let (first, below) := lineEnd.takeBreak
    match readEmptyLines (some indent) 0 below with
    | none => none
    | some (more, _, next) =>
      if next.rest.length < c.rest.length then
        (readLines folded chomp indent { first, more, afterBlank := blank } next).map
          fun (text, c) => (g.text folded blank ++ line ++ text, c)
      else none
termination_by c.rest.length

/-- Reads a block scalar. The block collection around it, if there is one, is indented by
`outer`; content is indented more than that, and by one column at least. -/
def readBlock (folded : Bool) (outer : Option Nat) (c : Cursor) : Option (List Char × Cursor) := do
  let (chomp, increment, c) ← readHeader c
  let indent := increment.map (outer.getD 0 + ·)
  let (more, widest, c) ← readEmptyLines indent 0 c
  let least := outer.elim 1 (· + 1)
  readLines folded chomp (indent.getD (max widest least)) { more } c

end SessionControl.Yaml
