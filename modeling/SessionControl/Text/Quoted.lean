import SessionControl.Text.Digits
import SessionControl.Text.Marks

/-!
# Quoted text

The form in which an optional name is shown in a log line: between double quotes, on one line,
with every character that could be mistaken or that cannot be seen written as an escape.

## Main definitions

- `Text.escape` — how one character is shown between quotes
- `Text.quoted` — a whole text between quotes
- `Text.optional` — an optional value, shown as `Some(…)` or `None`
-/

namespace SessionControl.Text

/-- A character by its code point, in lower-case hexadecimal between braces. -/
def escapedCode (c : Char) : List Char :=
  ['\\', 'u', '\x7b'] ++ Nat.toDigits 16 c.toNat ++ ['\x7d']

/-- How a character is shown between double quotes. A character that extends the one before it
is written by its code point even though it is visible, and so is one that is drawn as nothing
even though it is a letter. -/
def escape (c : Char) : List Char :=
  if c = '\x00' then ['\\', '0']
  else if c = '\t' then ['\\', 't']
  else if c = '\r' then ['\\', 'r']
  else if c = '\n' then ['\\', 'n']
  else if c = '\\' then ['\\', '\\']
  else if c = '\x22' then ['\\', '\x22']
  else if isExtending c || isIgnorable c || isUnprintable c then escapedCode c
  else [c]

def quoted (s : String) : String :=
  String.ofList (['\x22'] ++ s.toList.flatMap escape ++ ['\x22'])

/-- An optional value, given how its content is shown. -/
def optional {α : Type} (content : α → String) : Option α → String
  | none => "None"
  | some a => "Some(" ++ content a ++ ")"

end SessionControl.Text
