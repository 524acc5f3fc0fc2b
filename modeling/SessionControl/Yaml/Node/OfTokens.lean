import SessionControl.Yaml.Node
import SessionControl.Yaml.Token

/-!
# Nodes from tokens

Each reader takes a node from the front of a list of tokens and gives the rest. The number of
steps is bounded by the number of tokens, since a node inside another one comes after a token of
the outer one.

## Main definitions

- `Node.ofTokens?` — the node at the front of some tokens
-/

namespace SessionControl.Yaml.Node

/-- A node that is written as nothing. -/
def empty : Node String := .scalar none { text := "" }

/-- What may stand before the content of a node. -/
structure Properties where
  anchor : Option String := none
  tag : Option String := none
  deriving DecidableEq, Repr

def Properties.isSome (p : Properties) : Bool :=
  p.anchor.isSome || p.tag.isSome

/-- The anchor and the tag at the front of some tokens, in either order. -/
def readProperties (table : TagTable) : List Token → Option (Properties × List Token)
  | .anchor name :: .tag t :: ts
  | .tag t :: .anchor name :: ts =>
    (t.expand? table).map fun tag => ({ anchor := name, tag }, ts)
  | .anchor name :: ts => some ({ anchor := name }, ts)
  | .tag t :: ts => (t.expand? table).map fun tag => ({ tag }, ts)
  | ts => some ({}, ts)

structure Context where
  /-- Outside of flow collections, where indentation shows collections. -/
  block : Bool
  /-- In a mapping, whose values may be sequences without an indentation of their own. -/
  member : Bool
  deriving DecidableEq, Repr

/-- The next token is one of the given ones. -/
def isNext (stops : List Token) (ts : List Token) : Bool :=
  ts.head?.any stops.contains

mutual

/-- A node at the front of some tokens. -/
def readNode (table : TagTable) (ctx : Context) :
    Nat → List Token → Option (Node String × List Token)
  | 0, _ => none
  | _ + 1, .alias name :: ts => some (.alias name, ts)
  | fuel + 1, ts => do
    let (p, ts) ← readProperties table ts
    match ts with
    | .scalar text style :: ts => some (.scalar p.anchor { text, style, tag := p.tag }, ts)
    | .flowSequenceStart :: ts =>
      let (vs, ts) ← readFlowElements table fuel ts
      some (.sequence p.anchor vs, ts)
    | .flowMappingStart :: ts =>
      let (ms, ts) ← readFlowMembers table fuel ts
      some (.mapping p.anchor ms, ts)
    | ts =>
      if ctx.member && isNext [.blockEntry] ts then
        let (vs, ts) ← readBareElements table fuel ts
        some (.sequence p.anchor vs, ts)
      else if ctx.block && isNext [.blockSequenceStart] ts then
        let (vs, ts) ← readBlockElements table fuel ts.tail
        some (.sequence p.anchor vs, ts)
      else if ctx.block && isNext [.blockMappingStart] ts then
        let (ms, ts) ← readBlockMembers table fuel ts.tail
        some (.mapping p.anchor ms, ts)
      else if p.isSome then some (.scalar p.anchor { text := "", tag := p.tag }, ts)
      else none

/-- A node, or an empty one if one of the given tokens comes next. -/
def readNodeBefore (table : TagTable) (ctx : Context) (stops : List Token) :
    Nat → List Token → Option (Node String × List Token)
  | 0, _ => none
  | fuel + 1, ts => if isNext stops ts then some (empty, ts) else readNode table ctx fuel ts

/-- The value of a member, or an empty one if there is no value mark. -/
def readValue (table : TagTable) (ctx : Context) (stops : List Token) :
    Nat → List Token → Option (Node String × List Token)
  | 0, _ => none
  | fuel + 1, .value :: ts => readNodeBefore table ctx stops fuel ts
  | _ + 1, ts => some (empty, ts)

def readBlockElements (table : TagTable) :
    Nat → List Token → Option (List (Node String) × List Token)
  | 0, _ => none
  | fuel + 1, .blockEntry :: ts => do
    let (v, ts) ← readNodeBefore table ⟨true, false⟩ [.blockEntry, .blockEnd] fuel ts
    let (vs, ts) ← readBlockElements table fuel ts
    some (v :: vs, ts)
  | _ + 1, .blockEnd :: ts => some ([], ts)
  | _ + 1, _ => none

/-- The elements of a sequence without an indentation of its own, which ends where something else
comes than an element. -/
def readBareElements (table : TagTable) :
    Nat → List Token → Option (List (Node String) × List Token)
  | 0, _ => none
  | fuel + 1, .blockEntry :: ts => do
    let (v, ts) ←
      readNodeBefore table ⟨true, false⟩ [.blockEntry, .key, .value, .blockEnd] fuel ts
    let (vs, ts) ← readBareElements table fuel ts
    some (v :: vs, ts)
  | _ + 1, ts => some ([], ts)

def readBlockMembers (table : TagTable) :
    Nat → List Token → Option (List (Node String × Node String) × List Token)
  | 0, _ => none
  | fuel + 1, .key :: ts => do
    let stops := [.key, .value, .blockEnd]
    let (k, ts) ← readNodeBefore table ⟨true, true⟩ stops fuel ts
    let (v, ts) ← readValue table ⟨true, true⟩ stops fuel ts
    let (ms, ts) ← readBlockMembers table fuel ts
    some ((k, v) :: ms, ts)
  | _ + 1, .blockEnd :: ts => some ([], ts)
  | _ + 1, _ => none

/-- A mapping of one member among the elements of a flow sequence, after its key mark. If no key
follows, the next token is left out. -/
def readPair (table : TagTable) : Nat → List Token → Option (Node String × List Token)
  | 0, _ => none
  | fuel + 1, ts => do
    let (k, ts) ←
      if isNext [.value, .flowEntry, .flowSequenceEnd] ts then some (empty, ts.tail)
      else readNode table ⟨false, false⟩ fuel ts
    let (v, ts) ← readValue table ⟨false, false⟩ [.flowEntry, .flowSequenceEnd] fuel ts
    some (.mapping none [(k, v)], ts)

/-- The elements of a flow sequence, with commas between them and perhaps one after them, up to
its end. -/
def readFlowElements (table : TagTable) :
    Nat → List Token → Option (List (Node String) × List Token)
  | 0, _ => none
  | _ + 1, .flowSequenceEnd :: ts => some ([], ts)
  | fuel + 1, ts => do
    let (v, ts) ← match ts with
      | .key :: ts => readPair table fuel ts
      | ts => readNode table ⟨false, false⟩ fuel ts
    match ts with
    | .flowEntry :: ts =>
      let (vs, ts) ← readFlowElements table fuel ts
      some (v :: vs, ts)
    | .flowSequenceEnd :: ts => some ([v], ts)
    | _ => none

/-- The members of a flow mapping, with commas between them and perhaps one after them, up to its
end. Something that is not marked as a key has an empty value. -/
def readFlowMembers (table : TagTable) :
    Nat → List Token → Option (List (Node String × Node String) × List Token)
  | 0, _ => none
  | _ + 1, .flowMappingEnd :: ts => some ([], ts)
  | fuel + 1, ts => do
    let stops := [.flowEntry, .flowMappingEnd]
    let (m, ts) ← match ts with
      | .key :: ts => do
        let (k, ts) ← readNodeBefore table ⟨false, false⟩ (.value :: stops) fuel ts
        let (v, ts) ← readValue table ⟨false, false⟩ stops fuel ts
        pure ((k, v), ts)
      | ts => (readNode table ⟨false, false⟩ fuel ts).map fun (k, ts) => ((k, empty), ts)
    match ts with
    | .flowEntry :: ts =>
      let (ms, ts) ← readFlowMembers table fuel ts
      some (m :: ms, ts)
    | .flowMappingEnd :: ts => some ([m], ts)
    | _ => none

end

/-- The node at the front of some tokens outside of collections, with the given handles. -/
def ofTokens? (table : TagTable) (ts : List Token) : Option (Node String × List Token) :=
  readNode table ⟨true, false⟩ (4 * ts.length + 4) ts

end SessionControl.Yaml.Node
