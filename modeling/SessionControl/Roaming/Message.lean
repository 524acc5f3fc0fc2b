/-!
# Messages on the roaming interface

The decoded messages that are exchanged with the peer of a roaming session, and the procedures
they belong to.

## Main definitions

- `Roaming.Procedure` — the three procedures that open a transaction
- `Roaming.Message` — a message, with the elements that matter to session control
- `Cause` — the causes that have a name
-/

namespace SessionControl

/-! ## Causes -/

namespace Cause

/-- The cause of an accepted request. -/
def accepted : UInt8 := 16

/-- The name of a cause, if it is one of those known here. -/
def name? (cause : UInt8) : Option String :=
  if cause = 16 then some "Request accepted"
  else if cause = 17 then some "Request accepted partially"
  else if cause = 64 then some "Context Not Found"
  else if cause = 65 then some "Invalid Message Format"
  else if cause = 69 then some "Mandatory IE incorrect"
  else if cause = 70 then some "Mandatory IE missing"
  else if cause = 72 then some "System failure"
  else if cause = 73 then some "No resources available"
  else if cause = 78 then some "Missing or unknown APN"
  else if cause = 94 then some "Request rejected"
  else none

end Cause

namespace Roaming

/-- A procedure that is begun by a request and ended by a response. -/
inductive Procedure where
  | createSession
  | modifyBearer
  | deleteSession
  deriving DecidableEq, Repr, Inhabited

/-- A message. A cause is absent when the message does not carry one. -/
inductive Message where
  | createSessionRequest
  | createSessionResponse (cause : Option UInt8)
  /-- Whether the request lists bearer contexts to be modified. -/
  | modifyBearerRequest (hasBearerContexts : Bool)
  | modifyBearerResponse (cause : Option UInt8)
  | deleteSessionRequest
  | deleteSessionResponse (cause : Option UInt8)
  | bearerResourceCommand (linkedBearer : Option UInt8)
  | bearerResourceFailureIndication (cause : Option UInt8)
  deriving DecidableEq, Repr, Inhabited

namespace Message

def type : Message → UInt8
  | createSessionRequest => 32
  | createSessionResponse _ => 33
  | modifyBearerRequest _ => 34
  | modifyBearerResponse _ => 35
  | deleteSessionRequest => 36
  | deleteSessionResponse _ => 37
  | bearerResourceCommand _ => 68
  | bearerResourceFailureIndication _ => 69

def name : Message → String
  | createSessionRequest => "Create Session Request"
  | createSessionResponse _ => "Create Session Response"
  | modifyBearerRequest _ => "Modify Bearer Request"
  | modifyBearerResponse _ => "Modify Bearer Response"
  | deleteSessionRequest => "Delete Session Request"
  | deleteSessionResponse _ => "Delete Session Response"
  | bearerResourceCommand _ => "Bearer Resource Command"
  | bearerResourceFailureIndication _ => "Bearer Resource Failure Indication"

/-- The cause that a response or a failure indication carries. -/
def cause? : Message → Option UInt8
  | createSessionResponse cause
  | modifyBearerResponse cause
  | deleteSessionResponse cause
  | bearerResourceFailureIndication cause => cause
  | createSessionRequest
  | modifyBearerRequest _
  | deleteSessionRequest
  | bearerResourceCommand _ => none

end Message

namespace Procedure

def name : Procedure → String
  | createSession => "Create Session"
  | modifyBearer => "Modify Bearer"
  | deleteSession => "Delete Session"

/-- The response that answers the request of this procedure, with the given cause. -/
def response : Procedure → Option UInt8 → Message
  | createSession => .createSessionResponse
  | modifyBearer => .modifyBearerResponse
  | deleteSession => .deleteSessionResponse

def responseType (p : Procedure) : UInt8 :=
  (p.response none).type

/-- The response of this procedure that a message is, by the cause it carries. -/
def answeredBy? : Procedure → Message → Option (Option UInt8)
  | createSession, .createSessionResponse cause => some cause
  | modifyBearer, .modifyBearerResponse cause => some cause
  | deleteSession, .deleteSessionResponse cause => some cause
  | _, _ => none

/-- A message answers a procedure exactly when it is that procedure's response. -/
theorem answeredBy?_eq_some_iff {p : Procedure} {m : Message} {cause : Option UInt8} :
    p.answeredBy? m = some cause ↔ m = p.response cause := by
  cases p <;> cases m <;> simp [answeredBy?, response]

end Procedure

end Roaming

end SessionControl
