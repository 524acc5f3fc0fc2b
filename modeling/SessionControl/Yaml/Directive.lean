import SessionControl.Yaml.Tag

/-!
# Directives

Lines before a document that give the version of the language or declare handles of tags.

## Main definitions

- `Yaml.Directive` — a directive
- `Yaml.readDirective` — the directive on a line
- `TagTable.ofDirectives?` — the table of handles in a document, if its directives are acceptable
-/

namespace SessionControl.Yaml

inductive Directive where
  | version (major minor : Nat)
  | declaration (handle expansion : String)
  deriving DecidableEq, Repr

namespace Directive

/-- A number of at most nine digits. -/
def readNumber (c : Cursor) : Option (Nat × Cursor) := do
  let (digits, c) := c.takeWhile Text.isDecimal
  let n ← Text.numberOf? 10 digits
  if digits.length ≤ 9 then some (n, c) else none

def readVersion (c : Cursor) : Option (Directive × Cursor) := do
  let (major, c) ← readNumber (c.skipWhile isBlank)
  if !c.isAt '.' then none
  let (minor, c) ← readNumber (c.skip 1)
  pure (.version major minor, c)

def readDeclaration (c : Cursor) : Option (Directive × Cursor) := do
  let c := c.skipWhile isBlank
  if !c.isAt '!' then none
  let (handle, c) := readHandle c
  if !(isClosedHandle handle || handle = ['!']) then none
  if !c.peek?.any isBlank then none
  let (expansion, c) ← readSomeUri true (c.skipWhile isBlank)
  if atBoundary c.rest then some (.declaration (String.ofList handle) expansion, c) else none

end Directive

/-- The directive at the place of its percent sign, and the beginning of the next line. -/
def readDirective (c : Cursor) : Option (Directive × Cursor) := do
  let (name, c) := (c.skip 1).takeWhile isWordChar
  if !atBoundary c.rest then none
  let (directive, c) ← match String.ofList name with
    | "YAML" => Directive.readVersion c
    | "TAG" => Directive.readDeclaration c
    | _ => none
  let c ← c.finishLine?
  pure (directive, c)

def Directive.version? : Directive → Option (Nat × Nat)
  | version major minor => some (major, minor)
  | declaration _ _ => none

/-- The declared handles among some directives, with what they stand for. -/
def Directive.entry? : Directive → Option (String × String)
  | version _ _ => none
  | declaration handle expansion => some (handle, expansion)

/-- The table of handles in a document with the given directives. One version may be given, which
has to be 1.1 or 1.2, and a handle may be declared once. -/
def TagTable.ofDirectives? (ds : List Directive) : Option TagTable :=
  let versions := ds.filterMap Directive.version?
  let entries := ds.filterMap Directive.entry?
  if versions.length ≤ 1 && versions.all (· ∈ [(1, 1), (1, 2)]) &&
      decide (entries.map Prod.fst).Nodup then
    some (entries ++ TagTable.standard)
  else none

end SessionControl.Yaml
