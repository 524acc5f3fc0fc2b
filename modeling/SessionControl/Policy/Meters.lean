import SessionControl.Config.Basic
import SessionControl.Trace.Traced

/-!
# Charging meters

A charging group is metered by one reporting rule, which applies to both directions of the
default bearer. The meters of a session follow the rating groups of the policy that was
installed last: a group that is still there keeps its meter, a new group gets a new one, and the
meter of a group that is gone is removed.

## Main definitions

- `RuleGraph.removeStaleMeters` — removes the meters of groups that are gone
- `RuleGraph.installMeters` — finds or adds the meter of each group and sets its thresholds
- `RuleGraph.applyMeters` — lets meters apply to both directions of the default bearer
-/

namespace SessionControl.RuleGraph

open Policy (Rule)

/-- A meter: a rating group and the reporting rule that meters it. -/
structure Meter where
  ratingGroup : UInt32
  urr : UrrId
  deriving DecidableEq, Repr, Inhabited

/-- The reporting rules whose rating group is not among `groups`. -/
def staleMeters (g : RuleGraph) (groups : List UInt32) : List UrrId :=
  (g.urrs.filter fun u => !groups.contains u.ratingGroup).map (·.id)

def removeMeter (g : RuleGraph) (id : UrrId) : Traced RuleGraph :=
  match g.removeUrr id with
  | (some urr, g) => do
    Traced.note (.meterRemoved urr.id urr.ratingGroup)
    pure g
  | (none, g) => pure g

/-- Removes the reporting rules whose rating group is not among `groups`. -/
def removeStaleMeters (g : RuleGraph) (groups : List UInt32) : Traced RuleGraph :=
  (g.staleMeters groups).foldlM removeMeter g

/-- A reporting rule that measures volume and duration against the configured thresholds. -/
def meterSettings (config : MeterConfig) (u : Urr) : Urr :=
  { u with
    measurement := { duration := true, volume := true }
    volume := { hasTotal := true, total := config.volume }
    seconds := config.seconds
    triggers := { volumeThreshold := true, timeThreshold := true } }

/-- The reporting rule of a rating group, which is added if there is none. -/
def ensureMeter (g : RuleGraph) (rules : List Rule) (group : UInt32) :
    Traced (UrrId × RuleGraph) :=
  match g.urrOfGroup? group with
  | some id => pure (id, g)
  | none => do
    let (id, g) := g.addUrr group
    Traced.note (.meterCreated id group (rules.countP (·.ratingGroup == group)))
    pure (id, g)

/-- Gives each rating group a meter with the configured thresholds. -/
def installMeters (config : MeterConfig) (rules : List Rule) :
    List UInt32 → RuleGraph → Traced (List Meter × RuleGraph)
  | [], g => pure ([], g)
  | group :: groups, g => do
    let (urr, g) ← g.ensureMeter rules group
    let g := g.updateUrr urr (meterSettings config)
    let (meters, g) ← installMeters config rules groups g
    pure (⟨group, urr⟩ :: meters, g)

/-- Makes the meters those of the rating groups of `rules`. -/
def renewMeters (g : RuleGraph) (config : MeterConfig) (rules : List Rule) :
    Traced (List Meter × RuleGraph) := do
  let groups := Policy.ratingGroups rules
  let g ← g.removeStaleMeters groups
  installMeters config rules groups g

/-- Lets each meter apply to the detection rules of both directions. -/
def applyMeters (uplink downlink : PdrId) : List Meter → RuleGraph → Attempt RuleGraph
  | [], g => pure g
  | m :: ms, g => do
    Traced.note (.meterApplied m.urr m.ratingGroup)
    let g ← Attempt.ofGraph (g.associateUrr uplink m.urr)
    let g ← Attempt.ofGraph (g.associateUrr downlink m.urr)
    applyMeters uplink downlink ms g

end SessionControl.RuleGraph
