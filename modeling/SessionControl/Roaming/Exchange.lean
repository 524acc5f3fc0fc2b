import SessionControl.Session.Basic
import SessionControl.Trace.Traced

/-!
# Roaming exchanges

What is done for a message that the state machine admits. A request is carried out on the user
plane and then answered on its own transaction; it is not answered if the user plane failed. A
response is checked for the accepted cause.

## Main definitions

- `Roaming.Handled` — a traced computation that may end in a session error
- `Roaming.carryOut` — a request to the user-plane node
- `Roaming.answer` — a message that is sent on a transaction
- `Roaming.checkResponse` — a response of the peer
-/

namespace SessionControl.Roaming

/-- A traced computation that may end in a session error. -/
abbrev Handled (α : Type) := ExceptT SessionError Traced α

/-- Sends a request about the session to its user-plane node. -/
def carryOut (peers : Peers) (s : Session) (request : UserPlaneRequest) : Handled Unit := do
  Traced.call (.userPlane request s.imsi s.machine)
  match peers.userPlane request with
  | .ok () => pure ()
  | .error e =>
    Traced.note (.userPlaneFailed s.imsi request e)
    throw e

/-- Sends a message as the answer on a transaction. -/
def answer (peers : Peers) (imsi : String) (transaction : UInt64) (m : Message) :
    Handled Unit := do
  Traced.call (.commit transaction m)
  match peers.commit transaction m with
  | .ok () => pure ()
  | .error e =>
    Traced.note (.notSent imsi m e)
    throw e

/-- Carries out a request of the peer on the user plane, if it asks anything of it, and accepts
it. -/
def handleRequest (peers : Peers) (s : Session) (transaction : UInt64) (procedure : Procedure)
    (request : Option UserPlaneRequest) : Handled Unit := do
  Traced.note (.requestArrived s.imsi procedure)
  if let some request := request then carryOut peers s request
  answer peers s.imsi transaction (procedure.response (some Cause.accepted))

/-- Modifies the user plane for a linked bearer, if one is named, and answers the command. -/
def handleCommand (peers : Peers) (s : Session) (transaction : UInt64)
    (linkedBearer : Option UInt8) : Handled Unit := do
  Traced.note (.commandArrived s.imsi linkedBearer)
  if linkedBearer.isSome then carryOut peers s .modify
  answer peers s.imsi transaction (.bearerResourceFailureIndication (some Cause.accepted))

/-- Accepts a response of the peer only if it carries the accepted cause. -/
def checkResponse (imsi : String) (procedure : Procedure) : Option UInt8 → Handled Unit
  | some cause =>
    if cause = Cause.accepted then Traced.note (.responseAccepted imsi procedure)
    else do
      Traced.note (.responseRejected imsi procedure cause)
      throw (.rejected procedure cause)
  | none => do
    Traced.note (.responseWithoutCause imsi procedure)
    throw (.noCause procedure)

end SessionControl.Roaming
