import SessionControl.Policy.Meters
import SessionControl.Policy.Wiring

/-!
# Installing a policy

The decision of the policy server becomes the rule graph of the session. A decision that is
refused changes nothing. A session of the voice service is exempt: its decisions are never
refused, and its rules are not metered.

## Main definitions

- `Session.refusal?` — why a decision is refused
- `Session.compile` — installs a decision that is not refused
- `Session.install` — the whole operation, with the result code that is answered
- `Session.handlePolicy` — all messages of the policy server
- `Session.handlePolicyWith` — the same, with what comes of the binding of pushed rules
-/

namespace SessionControl

namespace Policy

/-- Why a decision is refused. -/
inductive Refusal where
  /-- The policy server did not report success. -/
  | unsuccessful (resultCode : UInt32) (error : Option UInt32)
  /-- A rule has more flows than the limit. -/
  | tooManyFlows (rule : Rule) (limit : Nat)
  deriving DecidableEq, Repr

namespace Refusal

def answer : Refusal → UInt32
  | unsuccessful _ error => error.getD ResultCode.authenticationRejected
  | tooManyFlows _ _ => ResultCode.unableToComply

def notice (imsi : String) : Refusal → Notice
  | unsuccessful resultCode _ => .policyRefused imsi resultCode
  | tooManyFlows rule limit => .tooManyFlows imsi rule.name rule.flows.length limit

end Refusal

def storedNotices (rules : List Rule) : List Notice :=
  rules.zipIdx.flatMap fun (r, i) =>
    Notice.ruleStored i r.name r.ratingGroup r.flowStatus ::
      r.flows.zipIdx.map fun (f, j) => Notice.flowStored j f

/-- What is said about the flows of rules that are installed. -/
def flowNotices (rules : List Rule) : List Notice :=
  rules.flatMap fun r => r.flows.flatMap fun f =>
    (if f.direction.hasUplink then [Notice.uplinkFlow f.description] else []) ++
      (if f.direction.hasDownlink then [Notice.downlinkFlow f.description] else [])

end Policy

namespace Session

open Policy (Message Decision Refusal)

/-- Why a decision is refused for a session, if it is. The result of the policy server comes
before the number of flows. -/
def refusal? (s : Session) (config : Config) (m : Message) : Option Refusal :=
  if s.isFor config.voiceNetwork then none
  else if m.isSuccess then
    (m.decision.rules.find? fun r => decide (config.flowLimit < r.flows.length)).map fun r =>
      .tooManyFlows r config.flowLimit
  else some (.unsuccessful m.resultCode m.error)

/-- Makes the meters of the session those of the decision. An exempt session has none of its
own, and those it has are left alone. -/
def renewMeters (s : Session) (config : Config) (d : Decision) :
    Traced (List RuleGraph.Meter × Session) :=
  if s.isFor config.voiceNetwork then pure ([], s)
  else do
    let (meters, graph) ← s.graph.renewMeters config.meter d.rules
    pure (meters, { s with graph })

/-- Stores the rules of a decision in place of those before. -/
def storeRules (s : Session) (rules : List Policy.Rule) : Traced Session := do
  Traced.noteAll (Policy.storedNotices rules)
  pure { s with rules }

/-- Lets meters apply to both directions of the default bearer. -/
def applyMeters (s : Session) (bearer : Bearer) (meters : List RuleGraph.Meter) :
    Attempt Session := do
  let graph ← s.graph.applyMeters bearer.uplinkPdr bearer.downlinkPdr meters
  pure { s with graph }

/-- Replaces the flows of the default bearer by those of the stored rules. -/
def applyFlows (s : Session) (bearer : Bearer) : Traced Session := do
  Traced.noteAll (Policy.flowNotices s.rules)
  let uplink := (Policy.uplinkFlows s.rules).map .described
  let downlink := (Policy.downlinkFlows s.rules).map .described
  let graph := s.graph.updatePdr bearer.uplinkPdr fun p => { p with flows := uplink }
  pure { s with
    graph := graph.updatePdr bearer.downlinkPdr fun p => { p with flows := downlink } }

/-- Stores the aggregate rates of a decision if they differ from the stored ones. -/
def updateRates (s : Session) (rates : RatePair) : Traced Session :=
  if Policy.ratesChanged s.rates rates then do
    Traced.note (.ratesStored s.imsi rates)
    pure { s with rates, changed := { s.changed with rates := true } }
  else pure { s with changed := { s.changed with rates := false } }

/-- Stores the class and the priority of a decision if they differ from the stored ones. -/
def updateQos (s : Session) (qos : Policy.Qos) : Traced Session :=
  if Policy.qosChanged s.qos qos then do
    Traced.note (.qosStored s.imsi qos.index qos.arp.priority)
    pure { s with
      qos := { s.qos with index := qos.index, arp := qos.arp }
      changed := { s.changed with qos := true } }
  else pure { s with changed := { s.changed with qos := false } }

/-- Removes the rule that limits the session to its aggregate rates. -/
def dropRatesQer (s : Session) : Session :=
  match s.ratesQer with
  | some id => { s with ratesQer := none, graph := (s.graph.removeQer id).2 }
  | none => s

/-- The rule that limits the session to its aggregate rates, set to them and added if it is not
in the graph. -/
def ensureRatesQer (s : Session) : QerId × Session :=
  match s.ratesQer.filter fun id => (s.graph.qer? id).isSome with
  | some id =>
    (id, { s with graph := s.graph.updateQer id fun q => { q with maximum := s.rates } })
  | none =>
    let (id, graph) := s.graph.addQer s.rates
    (id, { s with graph, ratesQer := some id })

/-- Limits both directions of the default bearer to the aggregate rates of the session, or to
nothing if there are none. -/
def limitRates (s : Session) (bearer : Bearer) : Attempt Session :=
  if s.rates.isZero then pure s.dropRatesQer
  else do
    let (id, s) := s.ensureRatesQer
    let graph ← Attempt.ofGraph (s.graph.associateQer bearer.downlinkPdr id)
    let graph ← Attempt.ofGraph (graph.associateQer bearer.uplinkPdr id)
    pure { s with graph }

/-- Installs a decision that is not refused. -/
def compile (s : Session) (config : Config) (d : Decision) : Attempt Session := do
  let (meters, s) ← s.renewMeters config d
  let s ← s.storeRules d.rules
  let (bearer, s) ← s.configureBearer config
  let s ← s.allocateEndpoints
  let s ← s.applyMeters bearer meters
  let s ← s.applyFlows bearer
  let s ← s.updateRates d.rates
  let s ← s.updateQos d.qos
  s.limitRates bearer

/-- Installs the decision of a message unless it is refused. Gives the result code to answer. -/
def install (s : Session) (config : Config) (m : Message) : Attempt (UInt32 × Session) := do
  Traced.note (.installing s.imsi m.decision.rules.length)
  Traced.note (.installTeids s.peerControlTeid s.controlTeid)
  match s.refusal? config m with
  | some refusal =>
    Traced.note (refusal.notice s.imsi)
    pure (refusal.answer, s)
  | none =>
    let s ← s.compile config m.decision
    pure (ResultCode.success, s)

/-- Acknowledges the end of a session at the policy server. -/
def acknowledgeTermination (s : Session) : Traced UInt32 := do
  Traced.note (.terminationAcknowledged s.imsi)
  Traced.note (.terminationTeids s.peerControlTeid s.controlTeid)
  pure ResultCode.success

/-- Stores the rules of a pushed decision and lets them be bound to bearers. -/
def reauthorize (s : Session) (d : Decision) : Traced Session := do
  let s ← s.storeRules d.rules
  Traced.call (.bind (s.rules.map (·.name)))
  pure s

/-- Handles a message of the policy server. Gives the result code to answer; the answer to a
request during a session is not used and not answered. -/
def handlePolicy (s : Session) (config : Config) (m : Message) :
    Attempt (Option UInt32 × Session) :=
  match m.kind with
  | .initialAnswer => do
    let (code, s) ← s.install config m
    pure (some code, s)
  | .terminationAnswer => do
    let code ← s.acknowledgeTermination
    pure (some code, s)
  | .reauthorize => do
    let s ← s.reauthorize m.decision
    pure (some ResultCode.success, s)
  | .updateAnswer => do
    Traced.note (.updateIgnored s.imsi)
    pure (none, s)

/-- Handles a message of the policy server and lets pushed rules be bound to bearers. They are bound
by an engine outside of this development: `bind` stands for whatever that does with the session. It
may change the session, make calls and end in a fault. -/
def handlePolicyWith (s : Session) (config : Config) (m : Message)
    (bind : Session → Attempt Session) : Attempt (Option UInt32 × Session) := do
  let (answer, s) ← s.handlePolicy config m
  if m.kind = .reauthorize then
    let s ← bind s
    pure (answer, s)
  else pure (answer, s)

end Session

end SessionControl
