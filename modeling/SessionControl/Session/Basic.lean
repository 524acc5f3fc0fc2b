import SessionControl.Policy.Message
import SessionControl.Roaming.Machine
import SessionControl.RuleGraph.Graph
import SessionControl.RuleGraph.Teid
import SessionControl.UserPlane.Node

/-!
# Sessions

## Main definitions

- `Bearer` — the default bearer of a session: its two pairs of rules and its tunnel endpoints
- `Session` — all that is known about one session of a subscriber
- `Session.new` — a session before it is established
-/

namespace SessionControl

open Address (V4 V6)

/-- The default bearer: a detection and a forwarding rule in each direction, and both ends of
its tunnel. -/
structure Bearer where
  id : UInt64
  /-- The bearer identity that is signalled. -/
  ebi : UInt8
  uplinkPdr : PdrId
  downlinkPdr : PdrId
  uplinkFar : FarId
  downlinkFar : FarId
  /-- The end on the user-plane node. -/
  localEnd : Endpoint := {}
  /-- The end on the peer. -/
  peerEnd : Endpoint
  qos : Policy.Qos := {}
  deriving DecidableEq, Repr, Inhabited

/-- What the last policy changed and has to be signalled to the peer. -/
structure ChangeFlags where
  rates : Bool := false
  qos : Bool := false
  deriving DecidableEq, Repr, Inhabited

/-- A session of a subscriber. -/
structure Session where
  id : UInt64
  /-- A small number of its own, from which tunnel numbers are made. -/
  index : UInt32
  /-- The subscriber, in decimal digits. -/
  imsi : String
  /-- The name of the network that the session is for. -/
  name : Option String
  ipv4 : Option V4 := none
  /-- The length of the device's IPv6 prefix, and the prefix. -/
  ipv6 : Option (UInt8 × V6) := none
  /-- The tunnel number of the peer on the control plane. -/
  peerControlTeid : UInt32 := 0
  /-- The tunnel number of this node on the control plane. -/
  controlTeid : UInt32
  rates : RatePair := {}
  qos : Policy.Qos := {}
  /-- The policy rules of the last installation. -/
  rules : List Policy.Rule := []
  graph : RuleGraph
  node : Option UserPlane.Node := none
  bearer : Option Bearer := none
  /-- Detects packets from the control plane for the device. -/
  fromControlPdr : Option PdrId := none
  /-- Detects packets from the device for the control plane. -/
  toControlPdr : Option PdrId := none
  /-- Forwards packets to the control plane. -/
  toControlFar : Option FarId := none
  /-- Limits both directions of the default bearer to the aggregate rates. -/
  ratesQer : Option QerId := none
  changed : ChangeFlags := {}
  machine : Roaming.Machine := {}
  deriving DecidableEq, Repr, Inhabited

namespace Session

/-- A session before it is established: without addresses, bearer, node and policy. -/
def new (id : UInt64) (index : UInt32) (imsi : String) (name : Option String) : Session :=
  { id, index, imsi, name, controlTeid := index, graph := { teidBase := Teid.base index } }

def state (s : Session) : Roaming.State :=
  s.machine.state

/-- Whether the session is for the network `name`. Case does not matter for ASCII letters. -/
def isFor (s : Session) (name : String) : Bool :=
  match s.name with
  | some n => n.toList.map Char.toLower == name.toList.map Char.toLower
  | none => false

end Session

end SessionControl
