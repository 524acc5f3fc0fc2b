import SessionControl.RuleGraph.Graph

/-!
# Faults

Promises about a session that were not kept when it was established. A fault ends the operation
that meets it, and the session must not be used any more.

## Main definitions

- `Fault` — the promises, one constructor each
- `Fault.message` — the wording of a fault
-/

namespace SessionControl

/-- A promise about a session that was not kept. Most faults name the subscriber. -/
inductive Fault where
  | graph (fault : GraphFault)
  /-- The rules towards the control plane were asked for without a default bearer. -/
  | forwardingWithoutBearer
  | noDefaultBearer (imsi : String)
  /-- The rules towards the control plane are not there. -/
  | noForwardingRules (imsi : String)
  /-- The detection rules of the default bearer are not in the graph. -/
  | noBearerPdrs (imsi : String)
  /-- The peer endpoint of the default bearer has no address. -/
  | noPeerAddress (imsi : String)
  /-- The downlink forwarding rule of the default bearer is not in the graph. -/
  | noDownlinkFar (imsi : String)
  | noDeviceAddress (imsi : String)
  /-- The configuration has no tunnel address of this node. -/
  | noTunnelAddress
  | noNode (imsi : String)
  /-- The bearer or the rules towards the control plane are not there. -/
  | noBearerRules (imsi : String)
  /-- The uplink detection rule of the default bearer is not in the graph. -/
  | noUplinkPdr (imsi : String)
  | noNodeAddress (imsi : String)
  deriving DecidableEq, Repr

def Fault.message : Fault → String
  | graph fault => fault.message
  | forwardingWithoutBearer => "CP/UP forwarding requires the default bearer"
  | noDefaultBearer imsi => s!"[{imsi}] no default bearer"
  | noForwardingRules imsi => s!"[{imsi}] CP/UP forwarding rules missing"
  | noBearerPdrs imsi => s!"[{imsi}] default bearer PDRs missing"
  | noPeerAddress imsi => s!"[{imsi}] no SGW-S5U address on default bearer"
  | noDownlinkFar imsi => s!"[{imsi}] default bearer DL FAR missing"
  | noDeviceAddress imsi => s!"[{imsi}] no UE IP address allocated"
  | noTunnelAddress => "SMF GTP-U address not configured"
  | noNode imsi => s!"[{imsi}] no PFCP node associated"
  | noBearerRules imsi => s!"[{imsi}] default bearer forwarding rules missing"
  | noUplinkPdr imsi => s!"[{imsi}] default bearer UL PDR missing"
  | noNodeAddress imsi => s!"[{imsi}] PFCP node has no address"

end SessionControl
