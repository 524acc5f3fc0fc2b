import SessionControl.RuleGraph.Rule

/-!
# User-plane nodes

The node that carries the packets of a session: the addresses it is reached at and the tunnel
endpoints it advertises.

## Main definitions

- `UserPlane.Resource` — tunnel endpoint addresses that a node advertises
- `UserPlane.Node` — the node itself
- `UserPlane.Node.resource?` — the endpoint for a network and an interface
-/

namespace SessionControl.UserPlane

open Address (V4 V6)

/-- Tunnel endpoint addresses, possibly for one network or one interface only. -/
structure Resource where
  /-- The network that the resource is for; none for any. -/
  network : Option String := none
  /-- The interface that the resource is for; none for any. -/
  source : Option Interface := none
  addr : Option V4 := none
  addr6 : Option V6 := none
  /-- How many bits of a tunnel number name the range. -/
  rangeBits : UInt8 := 0
  range : UInt8 := 0
  deriving DecidableEq, Repr, Inhabited

/-- Whether a resource is for the network and the interface. A resource for one network is not
for a session without a network name. -/
def Resource.serves (r : Resource) (network : Option String) (source : Interface) : Bool :=
  (r.network.isNone || r.network == network) && (r.source.isNone || r.source == some source)

/-- A node that carries the packets of a session. -/
structure Node where
  id : UInt64 := 0
  /-- The node picks tunnel endpoints itself. -/
  picksEndpoints : Bool := false
  resources : List Resource := []
  /-- The addresses the node is bound to, in configuration order. -/
  addresses : List Address.Any := []
  deriving DecidableEq, Repr, Inhabited

/-- The first resource of a node that is for the network and the interface. -/
def Node.resource? (n : Node) (network : Option String) (source : Interface) : Option Resource :=
  n.resources.find? (·.serves network source)

end SessionControl.UserPlane
