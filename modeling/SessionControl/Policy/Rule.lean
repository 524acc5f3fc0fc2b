import SessionControl.RuleGraph.Rule
import SessionControl.Sequence

/-!
# Policy and charging rules

What the policy server decides about a session: how the bearer is prioritised, which rates the
session may use, and which packet flows belong to which charging rule.

## Main definitions

- `Policy.Qos`, `Policy.Arp` — class and priority of a bearer
- `Policy.Flow` — a packet flow, with the directions it is matched in
- `Policy.Rule` — a policy and charging control rule
- `Policy.ratingGroups` — the charging groups that a list of rules needs meters for
- `Policy.ratesChanged`, `Policy.qosChanged` — whether a decision differs from what is stored
-/

namespace SessionControl.Policy

/-- Allocation and retention priority. -/
structure Arp where
  priority : UInt8 := 0
  canPreempt : Bool := false
  canBePreempted : Bool := false
  deriving DecidableEq, Repr, Inhabited

/-- The quality of service of a bearer. -/
structure Qos where
  /-- The class identifier. -/
  index : UInt8 := 0
  arp : Arp := {}
  maximum : RatePair := {}
  guaranteed : RatePair := {}
  deriving DecidableEq, Repr, Inhabited

inductive Direction where
  | downlinkOnly
  | uplinkOnly
  | bidirectional
  deriving DecidableEq, Repr, Inhabited

namespace Direction

/-- Matched in the uplink. -/
def hasUplink : Direction → Bool
  | downlinkOnly => false
  | uplinkOnly | bidirectional => true

/-- Matched in the downlink. -/
def hasDownlink : Direction → Bool
  | uplinkOnly => false
  | downlinkOnly | bidirectional => true

def name : Direction → String
  | downlinkOnly => "DownlinkOnly"
  | uplinkOnly => "UplinkOnly"
  | bidirectional => "Bidirectional"

end Direction

/-- A packet flow, described by an IP filter rule. -/
structure Flow where
  direction : Direction
  description : String
  deriving DecidableEq, Repr, Inhabited

/-- A policy and charging control rule. -/
structure Rule where
  name : String
  /-- The charging group; zero for a rule that is not metered. -/
  ratingGroup : UInt32 := 0
  precedence : UInt32 := 0
  flowStatus : UInt8 := 0
  qos : Qos := {}
  flows : List Flow := []
  deriving DecidableEq, Repr, Inhabited

/-- Adds the rating group of a rule to those found so far, unless it is zero or known. -/
def noteGroup (groups : List UInt32) (rule : Rule) : List UInt32 :=
  if rule.ratingGroup = 0 then groups else insertLast rule.ratingGroup groups

/-- The distinct rating groups of the rules, other than zero, in the order of their first
occurrence. -/
def ratingGroups (rules : List Rule) : List UInt32 :=
  rules.foldl noteGroup []

/-- The flow descriptions of the rules that are matched in the uplink, in order. -/
def uplinkFlows (rules : List Rule) : List String :=
  rules.flatMap fun r => (r.flows.filter (·.direction.hasUplink)).map (·.description)

/-- The flow descriptions of the rules that are matched in the downlink, in order. -/
def downlinkFlows (rules : List Rule) : List String :=
  rules.flatMap fun r => (r.flows.filter (·.direction.hasDownlink)).map (·.description)

/-- Whether a rate was supplied and differs from the stored one by its kilobits per second. -/
def rateChanged (stored incoming : UInt64) : Bool :=
  incoming != 0 && stored / 1000 != incoming / 1000

/-- Whether either of the incoming rates was supplied and differs from the stored one. -/
def ratesChanged (stored incoming : RatePair) : Bool :=
  rateChanged stored.uplink incoming.uplink || rateChanged stored.downlink incoming.downlink

/-- Whether the incoming class or priority differs from the stored one. A class or a priority
level of zero was not supplied; the pre-emption bits always are. -/
def qosChanged (stored incoming : Qos) : Bool :=
  (incoming.index != 0 && stored.index != incoming.index)
    || (incoming.arp.priority != 0 && stored.arp.priority != incoming.arp.priority)
    || stored.arp.canPreempt != incoming.arp.canPreempt
    || stored.arp.canBePreempted != incoming.arp.canBePreempted

end SessionControl.Policy
