import SessionControl.Config.Basic
import SessionControl.Session.Bearer

/-!
# Wiring the user plane

What an installed policy needs of the default bearer apart from the policy itself: where
packets are forwarded to, which addresses of the device they are matched against, and the tunnel
endpoints at which the user-plane node receives them.

## Main definitions

- `Session.configureBearer` — forwarding actions, outer headers and device addresses
- `Session.allocateEndpoints` — the tunnel endpoints of the detection rules
-/

namespace SessionControl

/-- The flow of router solicitations, which the device sends to the control plane. -/
def routerSolicitation : String := "permit out 58 from ff02::2/128 to assigned"

/-- The choice that all rules of the default bearer share. -/
def defaultChoice : UInt8 := 5

namespace RuleGraph

def forwardInto (g : RuleGraph) (far : FarId) (header : OuterHeader) : RuleGraph :=
  g.updateFar far fun f => { f with action := .forwardOnly, outerHeader := some header }

/-- Sets the device address that a detection rule matches. -/
def matchDevice (g : RuleGraph) (pdr : PdrId) (address : UeAddress) : RuleGraph :=
  g.updatePdr pdr fun p => { p with ueAddress := some address }

/-- Sets the tunnel endpoint of a detection rule. -/
def receiveAt (g : RuleGraph) (pdr : PdrId) (fTeid : FTeid) : RuleGraph :=
  g.updatePdr pdr fun p => { p with fTeid := some fTeid }

/-- Lets a detection rule match router solicitations, if it does not yet. -/
def matchSolicitations (g : RuleGraph) (pdr : PdrId) : RuleGraph :=
  g.updatePdr pdr fun p =>
    if p.flows.any (·.description == routerSolicitation) then p
    else { p with flows := p.flows ++ [.described routerSolicitation] }

end RuleGraph

namespace Session

/-- The addresses of the device, as they are matched in the uplink. There has to be one. -/
def deviceAddress (s : Session) : Attempt UeAddress := do
  let address : UeAddress := { addr := s.ipv4, addr6 := s.ipv6.map Prod.snd }
  Attempt.ensure (.noDeviceAddress s.imsi) (address.addr.isSome || address.addr6.isSome)
  pure address

/-- The rules to and from the control plane that carry out the default bearer's part. -/
structure ControlRules where
  pdr : PdrId
  far : FarId

/-- The rules that packets for the control plane meet, which have to be there. -/
def controlRules (s : Session) : Attempt ControlRules :=
  match s.toControlPdr, s.toControlFar with
  | some pdr, some far => pure ⟨pdr, far⟩
  | _, _ => throw (.noForwardingRules s.imsi)

/-- Lets the downlink forward to the peer and the rules of both directions match the device's
addresses. -/
def wireBearer (s : Session) (bearer : Bearer) : Attempt Session := do
  Attempt.ensure (.noBearerPdrs s.imsi)
    ((s.graph.pdr? bearer.uplinkPdr).isSome && (s.graph.pdr? bearer.downlinkPdr).isSome)
  let header ← Attempt.require (.noPeerAddress s.imsi) (OuterHeader.to? bearer.peerEnd)
  Attempt.ensure (.noDownlinkFar s.imsi) (s.graph.far? bearer.downlinkFar).isSome
  let graph := s.graph.forwardInto bearer.downlinkFar header
  Traced.note .downlinkForwards
  let address ← s.deviceAddress
  let graph := graph.matchDevice bearer.downlinkPdr { address with isDestination := true }
  pure { s with graph := graph.matchDevice bearer.uplinkPdr address }

/-- Lets router solicitations of the device be forwarded to this node. -/
def wireControl (s : Session) (config : Config) (rules : ControlRules) : Attempt Session := do
  let graph := s.graph.matchSolicitations rules.pdr
  let header ← Attempt.require .noTunnelAddress (OuterHeader.to? (config.tunnelEnd s.index))
  let graph := graph.forwardInto rules.far header
  Traced.note .toControlForwards
  pure { s with graph }

/-- Sets up the forwarding of the default bearer. Gives the bearer as well. -/
def configureBearer (s : Session) (config : Config) : Attempt (Bearer × Session) := do
  let bearer ← Attempt.require (.noDefaultBearer s.imsi) s.bearer
  let s ← s.createForwarding
  let rules ← s.controlRules
  let s ← s.wireBearer bearer
  let s ← s.wireControl config rules
  pure (bearer, s)

/-- The endpoint that a node advertises for a session: that of the first resource for the
network and the interface, or else the node's first address. The number is the tunnel index of
the rule, mapped into the range of the resource if it has one. -/
def advertisedEnd (node : UserPlane.Node) (network : Option String) (rule : Pdr) :
    Option Endpoint :=
  match node.resource? network rule.source with
  | some r =>
    some { teid := Teid.inRange rule.teid r.rangeBits r.range, addr := r.addr, addr6 := r.addr6 }
  | none =>
    match node.addresses.head? with
    | some (.v4 a) => some { teid := rule.teid, addr := some a }
    | some (.v6 a) => some { teid := rule.teid, addr6 := some a }
    | none => none

/-- Sets the tunnel endpoints of the uplink rule and of the rules to and from the control
plane. A node that picks endpoints itself is asked to do so; for any other node the endpoint is
picked here and becomes the local end of the bearer. -/
def allocateEndpoints (s : Session) : Attempt Session := do
  let node ← Attempt.require (.noNode s.imsi) s.node
  match s.bearer, s.fromControlPdr, s.toControlPdr with
  | some bearer, some fromControl, some toControl =>
    let uplink ← Attempt.require (.noUplinkPdr s.imsi) (s.graph.pdr? bearer.uplinkPdr)
    if node.picksEndpoints then
      let shared := FTeid.chosenByNode (some defaultChoice)
      pure { s with
        graph := ((s.graph.receiveAt bearer.uplinkPdr shared).receiveAt fromControl
          (.chosenByNode none)).receiveAt toControl shared }
    else
      let localEnd ← Attempt.require (.noNodeAddress s.imsi) (advertisedEnd node s.name uplink)
      Traced.note (.localEndpoint localEnd.teid localEnd.addr localEnd.addr6)
      let fromTeid := ((s.graph.pdr? fromControl).map (·.teid)).getD 0
      let picked := FTeid.ofEndpoint localEnd
      pure { s with
        bearer := some { bearer with localEnd }
        graph := ((s.graph.receiveAt bearer.uplinkPdr picked).receiveAt fromControl
          (.ofEndpoint { localEnd with teid := fromTeid })).receiveAt toControl picked }
  | _, _, _ => throw (.noBearerRules s.imsi)

end Session

end SessionControl
