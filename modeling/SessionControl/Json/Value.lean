import SessionControl.Text.Digits

/-!
# JSON values

## Main definitions

- `Json` — a JSON value; numbers keep the way they were written, and members their order
- `Json.natural?`, `Json.text?`, `Json.bool?` — the content of a value of one kind
- `Json.member?` — a member of an object; the last one of a name counts
- `Json.render` — the text of a value, without any blanks
-/

namespace SessionControl

/-- A JSON value. A string may hold an escape for half of a surrogate pair, which is no
character; such a string has no text. -/
inductive Json where
  | null
  | bool (b : Bool)
  | number (literal : String)
  | string (text : Option String)
  | array (elements : List Json)
  | object (members : List (Option String × Json))
  deriving Repr, Inhabited

namespace Json

/-! ## Making values -/

/-- A number without sign, fraction and exponent. -/
def natural (n : Nat) : Json := .number (toString n)

def ofText (s : String) : Json := .string (some s)

def ofMembers (members : List (String × Json)) : Json :=
  .object (members.map fun m => (some m.1, m.2))

/-- An optional value; `null` if there is none. -/
def ofOption {α : Type} (f : α → Json) : Option α → Json
  | none => .null
  | some a => f a

/-! ## Looking at values -/

/-- The number of a value that is written with decimal digits only and is below `bound`. -/
def natural? (bound : Nat) : Json → Option Nat
  | number literal => (Text.numberOf? 10 literal.toList).filter (· < bound)
  | _ => none

def text? : Json → Option String
  | string text => text
  | _ => none

def bool? : Json → Option Bool
  | bool b => some b
  | _ => none

/-- What `f` makes of a value other than `null`, or nothing of `null`. -/
def nullable? {α : Type} (f : Json → Option α) : Json → Option (Option α)
  | null => some none
  | v => (f v).map some

/-- The member of an object with a name; the last one if there are several. -/
def member? (name : String) : Json → Option Json
  | object members => (members.reverse.find? (·.1 == some name)).map Prod.snd
  | _ => none

/-- The values of a record whose fields have the given names: the members of an object, or the
elements of an array by position. A value may be missing, but an array may not have more
elements than there are names. -/
def fields? (names : List String) : Json → Option (List (Option Json))
  | object members => some (names.map fun name => (object members).member? name)
  | array elements =>
    if elements.length ≤ names.length then
      some (elements.map some ++ List.replicate (names.length - elements.length) none)
    else none
  | _ => none

/-! ## Writing -/

/-- How a character is written inside a string: as itself, unless it is a quote, a backslash or
a control character below the space. -/
def escape (c : Char) : List Char :=
  if c = '\x22' then ['\\', '\x22']
  else if c = '\\' then ['\\', '\\']
  else if c = '\x08' then ['\\', 'b']
  else if c = '\x0c' then ['\\', 'f']
  else if c = '\n' then ['\\', 'n']
  else if c = '\r' then ['\\', 'r']
  else if c = '\t' then ['\\', 't']
  else if c.toNat < 32 then
    ['\\', 'u', '0', '0', Nat.digitChar (c.toNat / 16), Nat.digitChar (c.toNat % 16)]
  else [c]

def quote (s : String) : String :=
  String.ofList (['\x22'] ++ s.toList.flatMap escape ++ ['\x22'])

mutual

/-- The text of a value, without blanks. A string without text is written as an empty one. -/
def render : Json → String
  | null => "null"
  | bool true => "true"
  | bool false => "false"
  | number literal => literal
  | string text => quote (text.getD "")
  | array elements => "[" ++ ",".intercalate (renderElements elements) ++ "]"
  | object members => "\x7b" ++ ",".intercalate (renderMembers members) ++ "\x7d"

def renderElements : List Json → List String
  | [] => []
  | v :: vs => v.render :: renderElements vs

def renderMembers : List (Option String × Json) → List String
  | [] => []
  | (name, v) :: ms => (quote (name.getD "") ++ ":" ++ v.render) :: renderMembers ms

end

end Json

end SessionControl
