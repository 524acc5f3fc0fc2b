import SessionControl.RuleGraph.Rule
import SessionControl.Sequence

/-!
# The rule graph of a session

The packet rules of one session and the associations between them. A detection rule is made
against a forwarding rule that exists, so it always has one; enforcement and reporting rules are
associated afterwards, and removing one removes every association to it.

Rules are kept in the order they were added, and a rule is found by the first one that has its
number. Numbers count up from one within each kind and are not given again.

## Main definitions

- `RuleGraph` — the four stores and their counters
- `RuleGraph.addFar`, `addPdr`, `addQer`, `addUrr` — add a rule
- `RuleGraph.associateQer`, `associateUrr` — let a rule apply to what a detection rule detects
- `RuleGraph.removeQer`, `removeUrr` — remove a rule and the associations to it
-/

namespace SessionControl

/-- A promise about the rule graph that a caller did not keep. -/
inductive GraphFault where
  | unpaired (far : FarId)
  | unknownPdr (id : PdrId)
  | unknownQer (id : QerId)
  | unknownUrr (id : UrrId)
  deriving DecidableEq, Repr

def GraphFault.message : GraphFault → String
  | .unpaired far => s!"PDR must be paired with an existing FAR (far_id={far.toNat})"
  | .unknownPdr id => s!"PDR {id.toNat} is not part of this session"
  | .unknownQer id => s!"QER {id.toNat} does not exist"
  | .unknownUrr id => s!"URR {id.toNat} does not exist"

/-- The packet rules of one session. -/
structure RuleGraph where
  /-- Added to the number of a detection rule to make its tunnel index. -/
  teidBase : UInt32 := 0
  pdrs : List Pdr := []
  fars : List Far := []
  qers : List Qer := []
  urrs : List Urr := []
  /-- The last number given to a rule of each kind. -/
  lastPdr : PdrId := 0
  lastFar : FarId := 0
  lastQer : QerId := 0
  lastUrr : UrrId := 0
  deriving DecidableEq, Repr, Inhabited

namespace RuleGraph

/-! ## Looking up -/

def pdr? (g : RuleGraph) (id : PdrId) : Option Pdr :=
  g.pdrs.find? (·.id == id)

def far? (g : RuleGraph) (id : FarId) : Option Far :=
  g.fars.find? (·.id == id)

def qer? (g : RuleGraph) (id : QerId) : Option Qer :=
  g.qers.find? (·.id == id)

def urr? (g : RuleGraph) (id : UrrId) : Option Urr :=
  g.urrs.find? (·.id == id)

/-- The number of the first reporting rule that meters a rating group. -/
def urrOfGroup? (g : RuleGraph) (ratingGroup : UInt32) : Option UrrId :=
  (g.urrs.find? (·.ratingGroup == ratingGroup)).map (·.id)

/-! ## Changing a rule -/

def updatePdr (g : RuleGraph) (id : PdrId) (f : Pdr → Pdr) : RuleGraph :=
  { g with pdrs := updateFirst (·.id == id) f g.pdrs }

def updateFar (g : RuleGraph) (id : FarId) (f : Far → Far) : RuleGraph :=
  { g with fars := updateFirst (·.id == id) f g.fars }

def updateQer (g : RuleGraph) (id : QerId) (f : Qer → Qer) : RuleGraph :=
  { g with qers := updateFirst (·.id == id) f g.qers }

def updateUrr (g : RuleGraph) (id : UrrId) (f : Urr → Urr) : RuleGraph :=
  { g with urrs := updateFirst (·.id == id) f g.urrs }

/-! ## Adding a rule -/

/-- Adds a forwarding rule that does nothing yet. -/
def addFar (g : RuleGraph) (destination : Interface) : FarId × RuleGraph :=
  let id := g.lastFar + 1
  (id, { g with fars := g.fars ++ [{ id, destination }], lastFar := id })

/-- Adds a detection rule paired with a forwarding rule, which has to exist. -/
def addPdr (g : RuleGraph) (source : Interface) (far : FarId) :
    Except GraphFault (PdrId × RuleGraph) :=
  if (g.far? far).isSome then
    let id := g.lastPdr + 1
    let pdr : Pdr := { id, source, teid := g.teidBase + id.toUInt32, far }
    .ok (id, { g with pdrs := g.pdrs ++ [pdr], lastPdr := id })
  else .error (.unpaired far)

/-- Adds an enforcement rule that limits the rates to `maximum`. -/
def addQer (g : RuleGraph) (maximum : RatePair) : QerId × RuleGraph :=
  let id := g.lastQer + 1
  (id, { g with qers := g.qers ++ [{ id, maximum }], lastQer := id })

/-- Adds a reporting rule that measures nothing yet. -/
def addUrr (g : RuleGraph) (ratingGroup : UInt32) : UrrId × RuleGraph :=
  let id := g.lastUrr + 1
  (id, { g with urrs := g.urrs ++ [{ id, ratingGroup }], lastUrr := id })

/-! ## Associating rules -/

/-- Applies an enforcement rule to what a detection rule detects. Both have to exist. -/
def associateQer (g : RuleGraph) (pdr : PdrId) (qer : QerId) : Except GraphFault RuleGraph :=
  if (g.qer? qer).isNone then .error (.unknownQer qer)
  else if (g.pdr? pdr).isNone then .error (.unknownPdr pdr)
  else .ok (g.updatePdr pdr fun p => { p with qers := insertLast qer p.qers })

/-- Applies a reporting rule to what a detection rule detects. Both have to exist. -/
def associateUrr (g : RuleGraph) (pdr : PdrId) (urr : UrrId) : Except GraphFault RuleGraph :=
  if (g.urr? urr).isNone then .error (.unknownUrr urr)
  else if (g.pdr? pdr).isNone then .error (.unknownPdr pdr)
  else .ok (g.updatePdr pdr fun p => { p with urrs := insertLast urr p.urrs })

/-! ## Removing a rule -/

/-- Removes an enforcement rule, if it is there, together with every association to it. -/
def removeQer (g : RuleGraph) (id : QerId) : Option Qer × RuleGraph :=
  match g.qer? id with
  | none => (none, g)
  | some qer =>
    (some qer,
      { g with
        qers := g.qers.eraseP (·.id == id)
        pdrs := g.pdrs.map fun p => { p with qers := p.qers.filter (· != id) } })

/-- Removes a reporting rule, if it is there, together with every association to it. -/
def removeUrr (g : RuleGraph) (id : UrrId) : Option Urr × RuleGraph :=
  match g.urr? id with
  | none => (none, g)
  | some urr =>
    (some urr,
      { g with
        urrs := g.urrs.eraseP (·.id == id)
        pdrs := g.pdrs.map fun p => { p with urrs := p.urrs.filter (· != id) } })

end RuleGraph

end SessionControl
