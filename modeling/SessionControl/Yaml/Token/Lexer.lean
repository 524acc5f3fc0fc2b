import SessionControl.Yaml.Scalar.Block
import SessionControl.Yaml.Scalar.Plain
import SessionControl.Yaml.Scalar.Quoted
import SessionControl.Yaml.Token

/-!
# The tokens of a text

Whether something is a key shows only at the value mark after it. So a place where a key may
begin is noted as a candidate, and when a value mark follows, the tokens for the key, and for the
mapping that begins with it, are put in before the tokens read since.

## Main definitions

- `Yaml.KeyCandidate` — a place where a key may begin
- `Yaml.Lexer` — the tokens so far, the place in the text, and the open collections
- `Lexer.step` — reads one token
- `Token.ofText?` — the tokens of a text
-/

namespace SessionControl.Yaml

/-- A place where a key may begin. -/
structure KeyCandidate where
  /-- The number of tokens before it. -/
  tokenCount : Nat
  /-- The number of bytes of the text before it. -/
  offset : Nat
  line : Nat
  column : Nat
  /-- It begins a line of a block mapping, so that it has to be a key. -/
  required : Bool
  deriving DecidableEq, Repr

/-- A key stands on one line and has at most 1024 bytes, however many characters they
are. -/
def KeyCandidate.isStale (c : Cursor) (k : KeyCandidate) : Bool :=
  k.line < c.line || k.offset + 1024 < c.offset

/-- How far a text has been read. -/
structure Lexer where
  cursor : Cursor
  /-- The tokens so far, the last one first. -/
  tokens : List Token := []
  /-- The columns of the open block collections, the innermost one first. -/
  indents : List Nat := []
  /-- The candidate in the innermost flow collection, or outside of them. -/
  candidate : Option KeyCandidate := none
  /-- The candidates around each open flow collection, the innermost one first. -/
  outer : List (Option KeyCandidate) := []
  /-- A key may begin here. -/
  keyAllowed : Bool := true

namespace Lexer

def inFlow (l : Lexer) : Bool := !l.outer.isEmpty

/-! ## Tokens -/

def emit (t : Token) (l : Lexer) : Lexer :=
  { l with tokens := t :: l.tokens }

/-- Adds a token that is written by the next `n` characters. -/
def take (n : Nat) (t : Token) (l : Lexer) : Lexer :=
  { l.emit t with cursor := l.cursor.skip n }

def insertAt (n : Nat) (t : Token) (l : Lexer) : Lexer :=
  let later := l.tokens.length - n
  { l with tokens := l.tokens.take later ++ t :: l.tokens.drop later }

/-! ## Block collections -/

/-- Begins a block collection at a column that is deeper than the innermost one, with a token
after the first `n` tokens. -/
def openBlock (n column : Nat) (start : Token) (l : Lexer) : Lexer :=
  if !l.inFlow && l.indents.head?.all (· < column) then
    { l.insertAt n start with indents := column :: l.indents }
  else l

/-- Ends the block collections that are deeper than a column, or all of them. -/
def closeBlocks (column : Option Nat) (l : Lexer) : Lexer :=
  let closes (indent : Nat) : Bool := column.all (· < indent)
  if l.inFlow then l
  else
    { l with
      tokens := (l.indents.takeWhile closes).map (fun _ => Token.blockEnd) ++ l.tokens
      indents := l.indents.dropWhile closes }

/-! ## Candidates -/

/-- Gives up the candidate, unless it has to be a key. -/
def dropCandidate (l : Lexer) : Option Lexer :=
  if l.candidate.any (·.required) then none else some { l with candidate := none }

/-- Gives up all candidates that can no longer be keys, unless one has to be. -/
def dropStale (l : Lexer) : Option Lexer :=
  let isStale := KeyCandidate.isStale l.cursor
  if (l.candidate :: l.outer).any (·.any fun k => k.required && isStale k) then none
  else
    some { l with
      candidate := l.candidate.filter (!isStale ·)
      outer := l.outer.map (·.filter (!isStale ·)) }

/-- Notes this place as a candidate, if a key may begin here. -/
def noteCandidate (l : Lexer) : Option Lexer :=
  if l.keyAllowed then do
    let l ← l.dropCandidate
    let c := l.cursor
    some { l with candidate := some {
      tokenCount := l.tokens.length, offset := c.offset, line := c.line, column := c.column,
      required := !l.inFlow && l.indents.head? == some c.column } }
  else some l

/-! ## From one token to the next -/

/-- The next place that is neither blank nor in a comment, and whether a key may begin there. A
tab counts as blank only where no key may begin. A byte order mark may begin a line. -/
def skipSpace (flow keyAllowed : Bool) (c : Cursor) : Bool × Cursor :=
  let start := if c.column = 0 && c.isAt '\ufeff' then c.skip 1 else c
  let stop := (start.skipWhile fun a =>
    a = ' ' || (a = '\t' && (flow || !keyAllowed))).skipComment
  match stop.takeBreak with
  | (none, _) => (keyAllowed, stop)
  | (some _, next) =>
    if next.rest.length < c.rest.length then skipSpace flow (keyAllowed || !flow) next
    else (keyAllowed, stop)
termination_by c.rest.length

/-- Goes to the next token, or to the end of the text. -/
def advance (l : Lexer) : Option Lexer := do
  let (keyAllowed, cursor) := skipSpace l.inFlow l.keyAllowed l.cursor
  let l ← { l with keyAllowed, cursor }.dropStale
  pure (l.closeBlocks (some l.cursor.column))

/-! ## Reading a token -/

/-- Leaves all collections for something that stands between documents. -/
def leaveDocument (l : Lexer) : Option Lexer := do
  let l ← (l.closeBlocks none).dropCandidate
  pure { l with keyAllowed := false }

def directive (l : Lexer) : Option Lexer := do
  let l ← l.leaveDocument
  let (d, cursor) ← readDirective l.cursor
  pure { l.emit (.directive d) with cursor }

/-- The mark for the beginning or the end of a document. -/
def documentMark (l : Lexer) : Option Lexer := do
  let l ← l.leaveDocument
  pure (l.take 3 (if l.cursor.isAt '-' then .documentStart else .documentEnd))

def openFlow (t : Token) (l : Lexer) : Option Lexer := do
  let l ← l.noteCandidate
  pure ({ l with candidate := none, outer := l.candidate :: l.outer, keyAllowed := true }.take 1 t)

def closeFlow (t : Token) (l : Lexer) : Option Lexer := do
  let l ← l.dropCandidate
  pure ({ l with
    candidate := l.outer.head?.join, outer := l.outer.tail, keyAllowed := false }.take 1 t)

def flowEntry (l : Lexer) : Option Lexer := do
  let l ← l.dropCandidate
  pure ({ l with keyAllowed := true }.take 1 .flowEntry)

/-- Begins a block collection here, where a key has to be allowed; inside a flow collection there
is nothing to begin. -/
def startBlock (start : Token) (l : Lexer) : Option Lexer :=
  if l.inFlow then some l
  else if l.keyAllowed then some (l.openBlock l.tokens.length l.cursor.column start)
  else none

/-- A hyphen before an element. -/
def blockEntry (l : Lexer) : Option Lexer := do
  let l ← (← l.startBlock .blockSequenceStart).dropCandidate
  pure ({ l with keyAllowed := true }.take 1 .blockEntry)

def explicitKey (l : Lexer) : Option Lexer := do
  let l ← (← l.startBlock .blockMappingStart).dropCandidate
  pure ({ l with keyAllowed := !l.inFlow }.take 1 .key)

/-- A colon before a value. The candidate is the key, if there is one. -/
def value (l : Lexer) : Option Lexer :=
  match l.candidate with
  | some k =>
    let l := (l.insertAt k.tokenCount .key).openBlock k.tokenCount k.column .blockMappingStart
    some ({ l with candidate := none, keyAllowed := false }.take 1 .value)
  | none => do
    let l ← l.startBlock .blockMappingStart
    pure ({ l with keyAllowed := !l.inFlow }.take 1 .value)

/-- Something that may be a key, or begin one: the token that `read` finds here. -/
def content (read : Cursor → Option (Token × Cursor)) (l : Lexer) : Option Lexer := do
  let l ← l.noteCandidate
  let (t, cursor) ← read l.cursor
  pure { l.emit t with cursor, keyAllowed := false }

def name (token : String → Token) : Lexer → Option Lexer :=
  content fun c => (readName (c.skip 1)).map fun (name, c) => (token name, c)

def quoted (q : Quote) : Lexer → Option Lexer :=
  let style := if q = .single then .singleQuoted else .doubleQuoted
  content fun c =>
    (readQuoted q (c.skip 1)).map fun (text, c) => (.scalar (String.ofList text) style, c)

/-- A block scalar. A key may begin after it. -/
def blockScalar (style : ScalarStyle) (l : Lexer) : Option Lexer := do
  let l ← l.dropCandidate
  let (text, cursor) ← readBlock (style = .folded) l.indents.head? (l.cursor.skip 1)
  pure { l.emit (.scalar (String.ofList text) style) with cursor, keyAllowed := true }

/-- A plain scalar. A key may begin after it on another line. -/
def plain (l : Lexer) : Option Lexer := do
  let l ← l.noteCandidate
  let e ← readPlain l.inFlow (l.indents.head?.elim 0 (· + 1)) l.cursor
  pure { l.emit (.scalar (String.ofList e.text) .plain) with
    cursor := e.cursor, keyAllowed := e.endsLine }

/-- The characters that cannot begin a plain scalar. -/
def indicators : List Char :=
  ['-', '?', ':', ',', '[', ']', '\x7b', '\x7d', '#', '&', '*', '!', '|', '>', '\x27', '\x22',
   '%', '@', '\x60']

/-- A plain scalar may begin with the given text. A hyphen, and outside of flow collections a
question mark or a colon, can do so if no separator follows. -/
def startsPlain (flow : Bool) : List Char → Bool
  | [] => false
  | a :: cs =>
    if isSeparator a then false
    else if a = '-' then !cs.head?.any isBlank
    else if a = '?' || a = ':' then !flow && !atBoundary cs
    else !indicators.contains a

/-- Reads the token at this place, where the text does not end. -/
def step (l : Lexer) : Option Lexer :=
  let c := l.cursor
  let separate := atBoundary (c.rest.drop 1)
  if c.column = 0 && c.isAt '%' then l.directive
  else if c.atDocumentMark then l.documentMark
  else match c.peek? with
    | some '[' => l.openFlow .flowSequenceStart
    | some '\x7b' => l.openFlow .flowMappingStart
    | some ']' => l.closeFlow .flowSequenceEnd
    | some '\x7d' => l.closeFlow .flowMappingEnd
    | some ',' => l.flowEntry
    | some '*' => l.name .alias
    | some '&' => l.name .anchor
    | some '!' => l.content fun c => (readTag l.inFlow c).map fun (t, c) => (.tag t, c)
    | some '\x27' => l.quoted .single
    | some '\x22' => l.quoted .double
    | some a =>
      if a = '-' && separate then l.blockEntry
      else if a = '?' && (l.inFlow || separate) then l.explicitKey
      else if a = ':' && (l.inFlow || separate) then l.value
      else if a = '|' && !l.inFlow then l.blockScalar .literal
      else if a = '>' && !l.inFlow then l.blockScalar .folded
      else if startsPlain l.inFlow c.rest then l.plain
      else none
    | none => none

def finish (l : Lexer) : Option (List Token) :=
  l.leaveDocument.map fun l => l.tokens.reverse

def run (l : Lexer) : Option (List Token) :=
  match l.advance with
  | none => none
  | some here =>
    if here.cursor.rest.isEmpty then here.finish
    else match here.step with
      | none => none
      | some next =>
        if next.cursor.rest.length < l.cursor.rest.length then run next else none
termination_by l.cursor.rest.length

end Lexer

/-- The tokens of a text, if it consists of tokens. -/
def Token.ofText? (s : String) : Option (List Token) :=
  if s.toList.all isAllowed then Lexer.run { cursor := .ofText s } else none

end SessionControl.Yaml
