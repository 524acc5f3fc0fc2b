import SessionControl.Yaml.Scalar

/-!
# Scalars between quotes

Between single quotes a quote is written twice and all else as itself. Between double quotes a
backslash begins an escape; at the end of a line it joins the line to the next one.

## Main definitions

- `Yaml.Quote` — the two kinds of quotes
- `Yaml.readQuoted` — the text of a scalar, from the place after its opening quote
-/

namespace SessionControl.Yaml

inductive Quote where
  | single
  | double
  deriving DecidableEq, Repr

def Quote.char : Quote → Char
  | single => '\x27'
  | double => '\x22'

inductive Piece where
  /-- A character, and how many characters write it. -/
  | char (a : Char) (width : Nat)
  /-- A backslash at the end of a line. -/
  | escapedBreak
  | stop
  deriving DecidableEq, Repr

/-- The character that an escape of one letter stands for. -/
def escaped? : Char → Option Char
  | '0' => some '\x00'
  | 'a' => some '\x07'
  | 'b' => some '\x08'
  | 't' => some '\t'
  | '\t' => some '\t'
  | 'n' => some '\n'
  | 'v' => some '\x0b'
  | 'f' => some '\x0c'
  | 'r' => some '\r'
  | 'e' => some '\x1b'
  | ' ' => some ' '
  | '\x22' => some '\x22'
  | '/' => some '/'
  | '\\' => some '\\'
  | 'N' => some '\x85'
  | '_' => some '\xa0'
  | 'L' => some '\u2028'
  | 'P' => some '\u2029'
  | _ => none

/-- How many digits follow the letter of an escape that gives the number of a character. -/
def escapeDigits? : Char → Option Nat
  | 'x' => some 2
  | 'u' => some 4
  | 'U' => some 8
  | _ => none

/-- The character whose number is written by exactly `width` digits of base sixteen. -/
def numbered? (width : Nat) (cs : List Char) : Option Char := do
  let digits := cs.take width
  let n ← Text.numberOf? 16 digits
  if digits.length = width ∧ n.isValidChar then some (Char.ofNat n) else none

/-- What an escape stands for, given the text after the backslash. -/
def escapePiece? : List Char → Option Piece
  | [] => none
  | a :: cs =>
    if isBreak a then some .escapedBreak
    else match escaped? a, escapeDigits? a with
      | some b, _ => some (.char b 2)
      | none, some width => (numbered? width cs).map fun b => .char b (2 + width)
      | none, none => none

/-- What comes next between quotes of a kind, unless it is no escape. -/
def piece? (q : Quote) : List Char → Option Piece
  | [] => some .stop
  | a :: cs =>
    if isSeparator a then some .stop
    else if a = q.char then
      if q = .single && cs.head? == some a then some (.char a 2) else some .stop
    else if q = .double && a = '\\' then escapePiece? cs
    else some (.char a 1)

/-- A word between quotes, the gap that an escaped break opens after it, and the place behind. -/
def readQuotedWord (q : Quote) (c : Cursor) : Option (List Char × Gap × Cursor) :=
  match piece? q c.rest with
  | none => none
  | some .stop => some ([], .empty, c)
  | some .escapedBreak => some ([], .breaks none [], (c.skip 1).skipBreak)
  | some (.char a width) =>
    let next := c.skip width
    if next.rest.length < c.rest.length then
      (readQuotedWord q next).map fun (word, gap, c) => (a :: word, gap, c)
    else none
termination_by c.rest.length

/-- The text of a scalar from a word on, and the place after its closing quote. The marks of
documents may not stand inside. -/
def readQuoted (q : Quote) (c : Cursor) : Option (List Char × Cursor) :=
  if c.atDocumentMark || c.rest.isEmpty then none
  else match readQuotedWord q c with
    | none => none
    | some (word, gap, c') =>
      if c'.isAt q.char then some (word, c'.skip 1)
      else match readGap 0 gap c' with
        | none => none
        | some (gap, next) =>
          if next.rest.length < c.rest.length then
            (readQuoted q next).map fun (text, c) => (word ++ gap.text ++ text, c)
          else none
termination_by c.rest.length

end SessionControl.Yaml
