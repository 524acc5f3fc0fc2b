import SessionControl.Roaming.Message

/-!
# Errors of session control

Why an operation on a session did not succeed. None of them stops the session: an error is
reported and the session goes on in the state its machine has reached.

## Main definitions

- `UserPlaneRequest` — the requests that are sent to the user-plane node
- `SessionError`, `SessionError.message` — the errors and their wording
-/

namespace SessionControl

/-- A request about a session that is sent to its user-plane node. -/
inductive UserPlaneRequest where
  | establish
  | modify
  | delete
  deriving DecidableEq, Repr, Inhabited

def UserPlaneRequest.name : UserPlaneRequest → String
  | establish => "session establishment"
  | modify => "session modification"
  | delete => "session deletion"

inductive SessionError where
  /-- The request to the user-plane node could not be sent. -/
  | userPlane (request : UserPlaneRequest) (reason : String)
  /-- The response could not be sent on its transaction. -/
  | commit (transaction : UInt64) (reason : String)
  /-- The peer answered with a cause other than accepted. -/
  | rejected (procedure : Roaming.Procedure) (cause : UInt8)
  /-- The peer answered without a cause. -/
  | noCause (procedure : Roaming.Procedure)
  /-- There is no session with the number. -/
  | notFound (id : UInt64)
  deriving DecidableEq, Repr, Inhabited

def SessionError.message : SessionError → String
  | userPlane request reason => s!"PFCP {request.name} failed: {reason}"
  | commit transaction reason => s!"GTP transaction {transaction.toNat} commit failed: {reason}"
  | rejected procedure cause =>
    s!"S8 {procedure.name} rejected by peer (cause={cause.toNat})"
  | noCause procedure => s!"S8 {procedure.name} response carries no cause"
  | notFound id => s!"Session not found: {id.toNat}"

end SessionControl
