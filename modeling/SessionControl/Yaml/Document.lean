import SessionControl.Yaml.Node.OfTokens
import SessionControl.Yaml.Token.Lexer

/-!
# Documents

A text holds one document, or none. The values in it are looked at through aliases.

## Main definitions

- `Yaml.Document` — the content of a text
- `Document.parse?` — the document that a text writes
- `Document.resolve?` — the node that an alias stands for
- `Document.natural?`, `Document.bool?`, `Document.text?`, `Document.nullable?`,
  `Document.fields?` — the content of a node of one kind
-/

namespace SessionControl.Yaml

structure Document where
  /-- The root of the tree; there is none in a text without content. -/
  root : Option (Node Nat)
  deriving Repr

namespace Document

/-! ## Reading -/

def directive? : Token → Option Directive
  | .directive d => some d
  | _ => none

def isDirective (t : Token) : Bool := (directive? t).isSome

/-- A document begins or ends before the given tokens. -/
def isEdge (ts : List Token) : Bool :=
  ts.head?.all fun t => isDirective t || t = .documentStart || t = .documentEnd

/-- The root of a document with a mark for its beginning, perhaps after directives. -/
def readMarked (ts : List Token) : Option (Node String × List Token) := do
  let table ← TagTable.ofDirectives? ((ts.takeWhile isDirective).filterMap directive?)
  match ts.dropWhile isDirective with
  | .documentStart :: ts => if isEdge ts then some (.empty, ts) else Node.ofTokens? table ts
  | _ => none

def readRoot (ts : List Token) : Option (Node String × List Token) :=
  if ts.head?.any fun t => isDirective t || t = .documentStart then readMarked ts
  else Node.ofTokens? TagTable.standard ts

/-- The document that some tokens make. Nothing but marks for its end may follow it. -/
def ofTokens? (ts : List Token) : Option Document :=
  if ts.isEmpty then some ⟨none⟩
  else do
    let (root, ts) ← readRoot ts
    if ts.all (· = .documentEnd) then some ⟨some (← root.number?)⟩ else none

def parse? (s : String) : Option Document := do
  ofTokens? (← Token.ofText? s)

/-! ## Looking at nodes -/

variable {α : Type}

def anchored (d : Document) : List (Nat × Node Nat) :=
  d.root.elim [] Node.anchored

/-- The node itself, or the one that an alias stands for: the last one of its number. -/
def resolve? (d : Document) : Node Nat → Option (Node Nat)
  | .alias n => (d.anchored.reverse.find? (·.1 == n)).map Prod.snd
  | v => some v

def scalar? (d : Document) (v : Node Nat) : Option Scalar :=
  match d.resolve? v with
  | some (.scalar _ s) => some s
  | _ => none

def text? (d : Document) (v : Node Nat) : Option String :=
  (d.scalar? v).map (·.text)

/-- The number below `bound` that a node stands for. -/
def natural? (d : Document) (bound : Nat) (v : Node Nat) : Option Nat :=
  (d.scalar? v).bind (·.natural? bound)

def bool? (d : Document) (v : Node Nat) : Option Bool :=
  (d.scalar? v).bind Scalar.bool?

/-- What `f` makes of a node, or nothing of one that stands for no value. -/
def nullable? (d : Document) (f : Node Nat → Option α) (v : Node Nat) : Option (Option α) := do
  let isNull ← match d.scalar? v with
    | some s => s.isNull?
    | none => some false
  if isNull then some none else (f v).map some

/-- The members of a mapping, with the texts of their keys. A node that is written as nothing has
no members. -/
def members? (d : Document) (v : Node Nat) : Option (List (String × Node Nat)) := do
  match ← d.resolve? v with
  | .mapping _ ms => ms.mapM fun m => (d.text? m.1).map fun key => (key, m.2)
  | .scalar _ s => if s.isEmpty then some [] else none
  | _ => none

/-- The values of a record whose fields have the given names. A value may be missing, and members
of other names do not matter, but none of the names may be repeated. -/
def fields? (d : Document) (names : List String) (v : Node Nat) :
    Option (List (Option (Node Nat))) := do
  let ms ← d.members? v
  if decide ((ms.map Prod.fst).filter names.contains).Nodup then
    some (names.map fun name => ms.lookup name)
  else none

end Document

end SessionControl.Yaml
