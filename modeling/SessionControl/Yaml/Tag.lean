import SessionControl.Text.Digits
import SessionControl.Yaml.Cursor

/-!
# Tags and names

A tag names the type of a node. It is written with a handle that stands for the beginning of the
full tag, or in full.

## Main definitions

- `Yaml.Tag` — a tag as it is written
- `Yaml.readName` — the name of an anchor
- `Yaml.readUri` — the characters of a tag, some of which are escaped as octets
- `Yaml.readTag` — a tag in front of a node
-/

namespace SessionControl.Yaml

/-- A tag as it is written. The handle of a full tag is empty. -/
structure Tag where
  handle : String
  suffix : String
  deriving DecidableEq, Repr

/-- The table of the handles and what they stand for. The first entry of a handle counts. -/
abbrev TagTable := List (String × String)

def TagTable.standard : TagTable :=
  [("!", "!"), ("!!", "tag:yaml.org,2002:")]

/-- The full tag of a written one, if its handle is known. -/
def Tag.expand? (table : TagTable) (t : Tag) : Option String :=
  if t.handle.isEmpty then some t.suffix else (table.lookup t.handle).map (· ++ t.suffix)

/-- The characters that may follow the name of an anchor, besides what ends a word. -/
def nameEnds : List Char :=
  ['?', ':', ',', ']', '\x7d', '%', '@', '\x60']

/-- The name of an anchor, from the place after its mark. -/
def readName (c : Cursor) : Option (String × Cursor) :=
  let (name, c) := c.takeWhile isWordChar
  if name.isEmpty then none
  else if atBoundary c.rest || c.peek?.any nameEnds.contains then some (String.ofList name, c)
  else none

/-! ## Characters of tags -/

/-- The marks that a tag may be made of, besides the characters of words. -/
def uriMarks : List Char :=
  [';', '/', '?', ':', '@', '&', '=', '+', '$', '.', '%', '!', '~', '*', '\x27', '(', ')']

/-- A character of a tag. A full tag (`full`) may hold commas and square brackets too. -/
def isUriChar (full : Bool) (a : Char) : Bool :=
  isWordChar a || uriMarks.contains a || (full && (a = ',' || a = '[' || a = ']'))

/-- The octet that is written at the front of a text by a percent sign and two digits. -/
def octet? : List Char → Option Nat
  | '%' :: a :: b :: _ => Text.numberOf? 16 [a, b]
  | _ => none

/-- The number of octets of a character whose first octet is given. -/
def octetCount? (first : Nat) : Option Nat :=
  if first < 0x80 then some 1
  else if 0xc0 ≤ first ∧ first < 0xe0 then some 2
  else if 0xe0 ≤ first ∧ first < 0xf0 then some 3
  else if 0xf0 ≤ first ∧ first < 0xf8 then some 4
  else none

/-- The given number of octets that continue a character, at the front of a text. -/
def continuation? : Nat → List Char → Option (List Nat)
  | 0, _ => some []
  | n + 1, cs => do
    let o ← octet? cs
    if 0x80 ≤ o ∧ o < 0xc0 then (continuation? n (cs.drop 3)).map (o :: ·) else none

/-- The octets of an escaped character at the front of a text. -/
def octets? (cs : List Char) : Option (List Nat) := do
  let first ← octet? cs
  let count ← octetCount? first
  (continuation? (count - 1) (cs.drop 3)).map (first :: ·)

/-- The text of some octets. Octets that are no character are replaced by one. -/
def textOfOctets (os : List Nat) : List Char :=
  match String.fromUTF8? ⟨(os.map Nat.toUInt8).toArray⟩ with
  | some s => s.toList
  | none => ['\ufffd']

/-- The characters of a tag from here on, and the place after them. -/
def readUri (full : Bool) (c : Cursor) : Option (List Char × Cursor) :=
  match c.peek? with
  | none => some ([], c)
  | some a =>
    if !isUriChar full a then some ([], c)
    else
      let read := if a = '%' then (octets? c.rest).map fun os => (textOfOctets os, 3 * os.length)
        else some ([a], 1)
      match read with
      | none => none
      | some (cs, width) =>
        let next := c.skip width
        if next.rest.length < c.rest.length then
          (readUri full next).map fun (rest, c) => (cs ++ rest, c)
        else none
termination_by c.rest.length

/-- The text of the characters of a tag. It ends before an escaped null character. -/
def uriText (cs : List Char) : String :=
  String.ofList (cs.takeWhile (· ≠ '\x00'))

/-- One character of a tag at least, and the place after them. -/
def readSomeUri (full : Bool) (c : Cursor) : Option (String × Cursor) :=
  match readUri full c with
  | some (a :: cs, c) => some (uriText (a :: cs), c)
  | _ => none

/-! ## Tags in front of nodes -/

/-- The handle at the place of an exclamation mark: a mark, perhaps with a word and another mark
after it. -/
def readHandle (c : Cursor) : List Char × Cursor :=
  let (word, c) := (c.skip 1).takeWhile isWordChar
  if c.isAt '!' then ('!' :: word ++ ['!'], c.skip 1) else ('!' :: word, c)

/-- A handle with an exclamation mark at both ends. -/
def isClosedHandle (handle : List Char) : Bool :=
  1 < handle.length && handle.getLast? == some '!'

/-- A tag in angle brackets, from the place after the opening one. -/
def readFullTag (c : Cursor) : Option (Tag × Cursor) := do
  let (uri, c) ← readSomeUri true c
  if c.isAt '>' then some (⟨"", uri⟩, c.skip 1) else none

/-- A tag with a handle. A word after a single mark is the suffix of the handle of that mark, and
the mark alone is a tag of its own. -/
def readShortTag (c : Cursor) : Option (Tag × Cursor) := do
  let (handle, c) := readHandle c
  if isClosedHandle handle then
    let (uri, c) ← readSomeUri false c
    some (⟨String.ofList handle, uri⟩, c)
  else
    let (uri, c) ← readUri false c
    let suffix := uriText (handle.drop 1 ++ uri)
    some (if suffix.isEmpty then ⟨"", "!"⟩ else ⟨"!", suffix⟩, c)

/-- A tag at the place of its exclamation mark. A word ends after it, or in a flow collection an
entry. -/
def readTag (flow : Bool) (c : Cursor) : Option (Tag × Cursor) := do
  let (tag, c) ← if c.starts ['!', '<'] then readFullTag (c.skip 2) else readShortTag c
  if atBoundary c.rest || (flow && c.isAt ',') then some (tag, c) else none

end SessionControl.Yaml
