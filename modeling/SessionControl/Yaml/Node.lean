import SessionControl.Yaml.Scalar

/-!
# Nodes

The content of a document is a tree. A node may have an anchor, and an alias stands for a node
with an anchor. As written, anchors have names; a name may be given again, so that which node an
alias stands for depends on the order. Numbering the anchors settles it.

## Main definitions

- `Yaml.Node` — a node, with anchors of a given type
- `Node.number?` — the same node with numbers for anchors, if all aliases are known
- `Node.anchored` — the nodes that have anchors, in their order
-/

namespace SessionControl.Yaml

/-- A node whose anchors have the type `ι`. -/
inductive Node (ι : Type) where
  | alias (anchor : ι)
  | scalar (anchor : Option ι) (content : Scalar)
  | sequence (anchor : Option ι) (elements : List (Node ι))
  | mapping (anchor : Option ι) (members : List (Node ι × Node ι))
  deriving Repr

/-! ## Numbers for anchors -/

/-- The names of anchors so far, with the number of the last anchor of each name. -/
abbrev Anchors := List (String × Nat)

namespace Anchors

/-- Gives a number to an anchor: how many different names there are before it. -/
def declare (name : String) (as : Anchors) : Anchors :=
  (name, as.length) :: as.filter (·.1 ≠ name)

/-- Gives a number to the anchor of a node, if the node has one. -/
def declare? (name : Option String) (as : Anchors) : Option Nat × Anchors :=
  match name with
  | none => (none, as)
  | some name => (some as.length, as.declare name)

end Anchors

namespace Node

mutual

/-- A node with numbers for anchors, and the names after it. An anchor counts before the content
of its node, and an alias has to name an anchor before it. -/
def number (as : Anchors) : Node String → Option (Node Nat × Anchors)
  | .alias name => (as.lookup name).map fun n => (.alias n, as)
  | .scalar anchor s =>
    let (n, as) := as.declare? anchor
    some (.scalar n s, as)
  | .sequence anchor elements =>
    let (n, as) := as.declare? anchor
    (numberElements as elements).map fun (vs, as) => (.sequence n vs, as)
  | .mapping anchor members =>
    let (n, as) := as.declare? anchor
    (numberMembers as members).map fun (ms, as) => (.mapping n ms, as)

def numberElements (as : Anchors) : List (Node String) → Option (List (Node Nat) × Anchors)
  | [] => some ([], as)
  | v :: vs => do
    let (v, as) ← v.number as
    let (vs, as) ← numberElements as vs
    pure (v :: vs, as)

def numberMembers (as : Anchors) :
    List (Node String × Node String) → Option (List (Node Nat × Node Nat) × Anchors)
  | [] => some ([], as)
  | (k, v) :: ms => do
    let (k, as) ← k.number as
    let (v, as) ← v.number as
    let (ms, as) ← numberMembers as ms
    pure ((k, v) :: ms, as)

end

def number? (v : Node String) : Option (Node Nat) :=
  (v.number []).map Prod.fst

/-! ## The nodes that have anchors -/

/-- A node with its anchor, if it has one. -/
def label {ι : Type} (anchor : Option ι) (v : Node ι) : List (ι × Node ι) :=
  anchor.toList.map fun i => (i, v)

mutual

/-- The nodes of a tree that have anchors, each before those inside it. -/
def anchored {ι : Type} : Node ι → List (ι × Node ι)
  | .alias _ => []
  | .scalar anchor s => label anchor (.scalar anchor s)
  | .sequence anchor elements =>
    label anchor (.sequence anchor elements) ++ anchoredElements elements
  | .mapping anchor members => label anchor (.mapping anchor members) ++ anchoredMembers members

def anchoredElements {ι : Type} : List (Node ι) → List (ι × Node ι)
  | [] => []
  | v :: vs => v.anchored ++ anchoredElements vs

def anchoredMembers {ι : Type} : List (Node ι × Node ι) → List (ι × Node ι)
  | [] => []
  | (k, v) :: ms => k.anchored ++ v.anchored ++ anchoredMembers ms

end

end Node

end SessionControl.Yaml
