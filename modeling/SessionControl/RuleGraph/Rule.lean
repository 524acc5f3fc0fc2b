import SessionControl.Address.V6

/-!
# Packet rules

The four kinds of rule that a user-plane node applies to the packets of one session, and the
information elements they are made of.

## Main definitions

- `Pdr` — detects packets and names the rules that apply to them
- `Far` — says what is done with a packet
- `Qer` — limits the bit rate
- `Urr` — meters usage and says when to report it
-/

namespace SessionControl

open Address (V4 V6)

/-- The number of a detection rule within its session. -/
abbrev PdrId := UInt16

/-- The number of a forwarding rule within its session. -/
abbrev FarId := UInt32

/-- The number of an enforcement rule within its session. -/
abbrev QerId := UInt32

/-- The number of a reporting rule within its session. -/
abbrev UrrId := UInt32

/-- The side of the user-plane node that a packet comes from or goes to. -/
inductive Interface where
  | access
  | core
  | sgiLan
  | cpFunction
  deriving DecidableEq, Repr, Inhabited

/-- A pair of bit rates or of other amounts, one for each direction. -/
structure RatePair where
  uplink : UInt64 := 0
  downlink : UInt64 := 0
  deriving DecidableEq, Repr, Inhabited

def RatePair.isZero (r : RatePair) : Bool :=
  r.uplink == 0 && r.downlink == 0

/-- What is done with a packet. -/
structure ApplyAction where
  drop : Bool := false
  forward : Bool := false
  buffer : Bool := false
  notify : Bool := false
  duplicate : Bool := false
  deriving DecidableEq, Repr, Inhabited

def ApplyAction.forwardOnly : ApplyAction := { forward := true }

/-- One end of a tunnel: its number and the addresses it is reached at. -/
structure Endpoint where
  teid : UInt32 := 0
  addr : Option V4 := none
  addr6 : Option V6 := none
  deriving DecidableEq, Repr, Inhabited

/-- No address to reach the endpoint at. -/
def Endpoint.isUnreachable (e : Endpoint) : Bool :=
  e.addr.isNone && e.addr6.isNone

/-- A tunnel endpoint as a detection rule carries it. -/
structure FTeid where
  ipv4 : Bool := false
  ipv6 : Bool := false
  /-- The user-plane node is asked to pick the endpoint. -/
  choose : Bool := false
  /-- Rules with the same `chooseId` get the same endpoint. -/
  sharesChoice : Bool := false
  chooseId : Option UInt8 := none
  teid : UInt32 := 0
  addr : Option V4 := none
  addr6 : Option V6 := none
  deriving DecidableEq, Repr, Inhabited

namespace FTeid

def chosenByNode (chooseId : Option UInt8) : FTeid :=
  { ipv4 := true, ipv6 := true, choose := true, sharesChoice := chooseId.isSome, chooseId }

def ofEndpoint (e : Endpoint) : FTeid :=
  { ipv4 := e.addr.isSome, ipv6 := e.addr6.isSome, teid := e.teid, addr := e.addr,
    addr6 := e.addr6 }

end FTeid

/-- The address of the subscriber's device as a detection rule matches it. -/
structure UeAddress where
  addr : Option V4 := none
  addr6 : Option V6 := none
  /-- The address is matched against the destination, as in the downlink. -/
  isDestination : Bool := false
  deriving DecidableEq, Repr, Inhabited

/-- The tunnel header that is put before a forwarded packet. -/
structure OuterHeader where
  gtpu4 : Bool
  gtpu6 : Bool
  teid : UInt32
  addr : Option V4
  addr6 : Option V6
  deriving DecidableEq, Repr, Inhabited

/-- The header of the tunnel to an endpoint; there is none without an address. -/
def OuterHeader.to? (e : Endpoint) : Option OuterHeader :=
  if e.isUnreachable then none
  else some { gtpu4 := e.addr.isSome, gtpu6 := e.addr6.isSome, teid := e.teid,
              addr := e.addr, addr6 := e.addr6 }

structure FlowFilter where
  /-- The filter carries a flow description. -/
  hasDescription : Bool
  description : String
  deriving DecidableEq, Repr, Inhabited

def FlowFilter.described (description : String) : FlowFilter :=
  { hasDescription := true, description }

/-- What a reporting rule measures. -/
structure Measurement where
  duration : Bool := false
  volume : Bool := false
  event : Bool := false
  deriving DecidableEq, Repr, Inhabited

/-- Volumes after which usage is reported. A volume counts only if its flag is set. -/
structure VolumeThreshold where
  hasTotal : Bool := false
  hasUplink : Bool := false
  hasDownlink : Bool := false
  total : UInt64 := 0
  uplink : UInt64 := 0
  downlink : UInt64 := 0
  deriving DecidableEq, Repr, Inhabited

/-- What makes a reporting rule report. -/
structure ReportTriggers where
  periodic : Bool := false
  volumeThreshold : Bool := false
  timeThreshold : Bool := false
  volumeQuota : Bool := false
  timeQuota : Bool := false
  deriving DecidableEq, Repr, Inhabited

/-- A packet detection rule. It names exactly one forwarding rule, and any number of
enforcement and reporting rules. -/
structure Pdr where
  id : PdrId
  precedence : UInt32 := 0
  source : Interface
  /-- The tunnel index that was set aside for this rule. -/
  teid : UInt32
  fTeid : Option FTeid := none
  ueAddress : Option UeAddress := none
  flows : List FlowFilter := []
  far : FarId
  qers : List QerId := []
  urrs : List UrrId := []
  deriving DecidableEq, Repr, Inhabited

structure Far where
  id : FarId
  action : ApplyAction := {}
  destination : Interface
  outerHeader : Option OuterHeader := none
  deriving DecidableEq, Repr, Inhabited

structure Qer where
  id : QerId
  /-- The rates that are never exceeded. -/
  maximum : RatePair
  /-- The rates that are always granted. -/
  guaranteed : RatePair := {}
  deriving DecidableEq, Repr, Inhabited

structure Urr where
  id : UrrId
  /-- The charging group that is metered; zero for none. -/
  ratingGroup : UInt32
  measurement : Measurement := {}
  volume : VolumeThreshold := {}
  /-- Seconds after which usage is reported; zero for none. -/
  seconds : UInt32 := 0
  triggers : ReportTriggers := {}
  deriving DecidableEq, Repr, Inhabited

end SessionControl
