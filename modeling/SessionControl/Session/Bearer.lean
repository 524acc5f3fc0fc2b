import SessionControl.Session.Basic
import SessionControl.Trace.Traced

/-!
# Establishing a session

The rules that every session has before any policy is installed: those of its default bearer,
and those that carry packets between the device and the control plane.

## Main definitions

- `Session.createBearer` — the rules of the default bearer
- `Session.createForwarding` — the rules to and from the control plane, if they are not there
-/

namespace SessionControl.Session

def addPdr (s : Session) (source : Interface) (far : FarId) : Attempt (PdrId × Session) := do
  let (id, graph) ← Attempt.ofGraph (s.graph.addPdr source far)
  pure (id, { s with graph })

def addFar (s : Session) (destination : Interface) : FarId × Session :=
  let (id, graph) := s.graph.addFar destination
  (id, { s with graph })

/-- Sets up the default bearer with a pair of rules in each direction: uplink packets go from
the access to the core, and downlink packets from the core to the access. -/
def createBearer (s : Session) (ebi : UInt8) (peerEnd : Endpoint) : Attempt Session := do
  let (uplinkFar, s) := s.addFar .core
  let (downlinkFar, s) := s.addFar .access
  let (uplinkPdr, s) ← s.addPdr .access uplinkFar
  let (downlinkPdr, s) ← s.addPdr .core downlinkFar
  Traced.note (.bearerCreated s.imsi ebi uplinkPdr downlinkPdr)
  let bearer : Bearer :=
    { id := s.id, ebi, uplinkPdr, downlinkPdr, uplinkFar, downlinkFar, peerEnd }
  pure { s with bearer := some bearer }

/-- Adds the rule that detects packets from the control plane, if it is not there. They are
forwarded like downlink packets. -/
def ensureFromControlPdr (s : Session) (downlinkFar : FarId) : Attempt Session :=
  if s.fromControlPdr.isSome then pure s
  else do
    let (id, s) ← s.addPdr .cpFunction downlinkFar
    pure { s with fromControlPdr := some id }

/-- Adds the rule that forwards packets to the control plane, if it is not there. -/
def ensureToControlFar (s : Session) : Session :=
  if s.toControlFar.isSome then s
  else
    let (id, s) := s.addFar .cpFunction
    { s with toControlFar := some id }

/-- Adds the rule that detects packets for the control plane, if it is not there. -/
def ensureToControlPdr (s : Session) : Attempt Session :=
  if s.toControlPdr.isSome then pure s
  else do
    let (id, s) ← s.addPdr .access (s.toControlFar.getD 0)
    pure { s with toControlPdr := some id }

/-- Adds those rules to and from the control plane that are not there. The session has to have
its default bearer. -/
def createForwarding (s : Session) : Attempt Session := do
  let bearer ← Attempt.require .forwardingWithoutBearer s.bearer
  let s ← s.ensureFromControlPdr bearer.downlinkFar
  s.ensureToControlFar.ensureToControlPdr

end SessionControl.Session
