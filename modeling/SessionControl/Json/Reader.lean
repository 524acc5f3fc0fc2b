import SessionControl.Json.Value

/-!
# Reading JSON

A reader takes what it reads from the front of a text and gives the rest. Containers are read
with a bound on the number of steps, which the length of the text provides: every step takes at
least one character.

## Main definitions

- `Json.parse?` — the value that a whole text writes, with blanks before and after it
-/

namespace SessionControl.Json

def isSpace (c : Char) : Bool :=
  c = ' ' || c = '\t' || c = '\n' || c = '\r'

/-- A text from its first character other than a blank. -/
def skipSpaces (cs : List Char) : List Char :=
  cs.dropWhile isSpace

/-! ## Strings -/

/-- What is found inside a string: a character, or the number of an escape that stands for half
of a surrogate pair. -/
inductive Unit16 where
  | char (c : Char)
  | half (n : Nat)
  deriving DecidableEq, Repr

/-- The unit with a number of at most four hexadecimal digits. -/
def unitOf (n : Nat) : Unit16 :=
  if 0xd800 ≤ n && n ≤ 0xdfff then .half n else .char (Char.ofNat n)

/-- The unit that an escape stands for, given the characters after the backslash. -/
def readEscape : List Char → Option (Unit16 × List Char)
  | '\x22' :: cs => some (.char '\x22', cs)
  | '\\' :: cs => some (.char '\\', cs)
  | '/' :: cs => some (.char '/', cs)
  | 'b' :: cs => some (.char '\x08', cs)
  | 'f' :: cs => some (.char '\x0c', cs)
  | 'n' :: cs => some (.char '\n', cs)
  | 'r' :: cs => some (.char '\r', cs)
  | 't' :: cs => some (.char '\t', cs)
  | 'u' :: a :: b :: c :: d :: cs => (Text.numberOf? 16 [a, b, c, d]).map fun n => (unitOf n, cs)
  | _ => none

/-- The units of a string up to its closing quote, in reverse before `read`, and the rest. A
control character below the space has to be escaped. -/
def readUnits : Nat → List Unit16 → List Char → Option (List Unit16 × List Char)
  | 0, _, _ => none
  | _ + 1, _, [] => none
  | fuel + 1, read, c :: cs =>
    if c = '\x22' then some (read.reverse, cs)
    else if c = '\\' then
      match readEscape cs with
      | some (u, cs) => readUnits fuel (u :: read) cs
      | none => none
    else if c.toNat < 32 then none
    else readUnits fuel (.char c :: read) cs

/-- The character that two halves of a pair make together. -/
def pair? (high low : Nat) : Option Char :=
  if 0xd800 ≤ high && high ≤ 0xdbff && 0xdc00 ≤ low && low ≤ 0xdfff then
    some (Char.ofNat (0x10000 + (high - 0xd800) * 0x400 + (low - 0xdc00)))
  else none

/-- The text of a string, unless half of a pair is left over. -/
def joinUnits : List Unit16 → Option (List Char)
  | [] => some []
  | .char c :: us => (joinUnits us).map (c :: ·)
  | .half high :: .half low :: us =>
    match pair? high low with
    | some c => (joinUnits us).map (c :: ·)
    | none => none
  | .half _ :: _ => none

/-- A string, given the characters after its opening quote. -/
def readString (cs : List Char) : Option (Option String × List Char) :=
  (readUnits (cs.length + 1) [] cs).map fun (us, rest) =>
    ((joinUnits us).map String.ofList, rest)

/-! ## Numbers -/

/-- One digit at least at the front of a text. -/
def readDigits (cs : List Char) : Option (List Char × List Char) :=
  let digits := cs.takeWhile Text.isDecimal
  if digits.isEmpty then none else some (digits, cs.drop digits.length)

/-- The whole part of a number, without leading zeros. -/
def readWhole (cs : List Char) : Option (List Char × List Char) :=
  match readDigits cs with
  | some (digits, rest) =>
    if digits.length > 1 && digits.head? == some '0' then none else some (digits, rest)
  | none => none

def readFraction : List Char → Option (List Char × List Char)
  | '.' :: cs => (readDigits cs).map fun (digits, rest) => ('.' :: digits, rest)
  | cs => some ([], cs)

def readSign : List Char → List Char × List Char
  | '+' :: cs => (['+'], cs)
  | '-' :: cs => (['-'], cs)
  | cs => ([], cs)

def readExponent : List Char → Option (List Char × List Char)
  | [] => some ([], [])
  | c :: cs =>
    if c = 'e' || c = 'E' then
      let (sign, cs) := readSign cs
      (readDigits cs).map fun (digits, rest) => (c :: sign ++ digits, rest)
    else some ([], c :: cs)

def readUnsigned (cs : List Char) : Option (List Char × List Char) := do
  let (whole, cs) ← readWhole cs
  let (fraction, cs) ← readFraction cs
  let (exponent, cs) ← readExponent cs
  pure (whole ++ fraction ++ exponent, cs)

def readNumber : List Char → Option (Json × List Char)
  | '-' :: cs =>
    (readUnsigned cs).map fun (literal, rest) => (.number (String.ofList ('-' :: literal)), rest)
  | cs => (readUnsigned cs).map fun (literal, rest) => (.number (String.ofList literal), rest)

/-! ## Values -/

/-- A given word at the front of a text. -/
def readWord (word : List Char) (v : Json) (cs : List Char) : Option (Json × List Char) :=
  if word.isPrefixOf cs then some (v, cs.drop word.length) else none

mutual

/-- A value at the front of a text, after blanks. -/
def readValue : Nat → List Char → Option (Json × List Char)
  | 0, _ => none
  | fuel + 1, cs =>
    match skipSpaces cs with
    | [] => none
    | '\x22' :: cs => (readString cs).map fun (text, rest) => (.string text, rest)
    | '[' :: cs =>
      match skipSpaces cs with
      | ']' :: rest => some (.array [], rest)
      | cs => (readElements fuel cs).map fun (vs, rest) => (.array vs, rest)
    | '\x7b' :: cs =>
      match skipSpaces cs with
      | '\x7d' :: rest => some (.object [], rest)
      | cs => (readMembers fuel cs).map fun (ms, rest) => (.object ms, rest)
    | 'n' :: cs => readWord ['u', 'l', 'l'] .null cs
    | 't' :: cs => readWord ['r', 'u', 'e'] (.bool true) cs
    | 'f' :: cs => readWord ['a', 'l', 's', 'e'] (.bool false) cs
    | cs => readNumber cs

/-- The elements of an array, one at least, up to its closing bracket. -/
def readElements : Nat → List Char → Option (List Json × List Char)
  | 0, _ => none
  | fuel + 1, cs =>
    match readValue fuel cs with
    | none => none
    | some (v, rest) =>
      match skipSpaces rest with
      | ']' :: rest => some ([v], rest)
      | ',' :: rest => (readElements fuel rest).map fun (vs, rest) => (v :: vs, rest)
      | _ => none

/-- The members of an object, one at least, up to its closing brace. -/
def readMembers : Nat → List Char → Option (List (Option String × Json) × List Char)
  | 0, _ => none
  | fuel + 1, cs =>
    match skipSpaces cs with
    | '\x22' :: cs =>
      match readString cs with
      | none => none
      | some (name, rest) =>
        match skipSpaces rest with
        | ':' :: rest =>
          match readValue fuel rest with
          | none => none
          | some (v, rest) =>
            match skipSpaces rest with
            | '\x7d' :: rest => some ([(name, v)], rest)
            | ',' :: rest =>
              (readMembers fuel rest).map fun (ms, rest) => ((name, v) :: ms, rest)
            | _ => none
        | _ => none
    | _ => none

end

/-- The value that a whole text writes, with blanks before and after it. -/
def parse? (s : String) : Option Json :=
  let cs := s.toList
  match readValue (2 * cs.length + 2) cs with
  | some (v, rest) => if (skipSpaces rest).isEmpty then some v else none
  | none => none

end SessionControl.Json
