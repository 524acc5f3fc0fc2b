import SessionControl.Roaming.Machine
import SessionControl.Session.Error

/-!
# Calls of collaborators

Everything that session control asks of the programs around it, as data.

## Main definitions

- `Call` — one request to a collaborator
- `Peers` — how the user-plane path and the roaming path answer
-/

namespace SessionControl

inductive Call where
  /-- A request to the user-plane node about the session of a subscriber, with the state of the
  session's machine at that time. -/
  | userPlane (request : UserPlaneRequest) (imsi : String) (machine : Roaming.Machine)
  /-- Send a message as the answer on a transaction. -/
  | commit (transaction : UInt64) (message : Roaming.Message)
  | startTimer (transaction : UInt64) (seconds : UInt64)
  | stopTimer (transaction : UInt64)
  /-- Map the policy rules of the session onto its bearers. -/
  | bind (rules : List String)
  | connect (host : String) (port : UInt16)
  | set (key value : String)
  | delete (key : String)
  | disconnect
  deriving DecidableEq, Repr, Inhabited

/-- How the collaborators of one roaming event answer. Either may fail with any error. -/
structure Peers where
  userPlane : UserPlaneRequest → Except SessionError Unit
  commit : UInt64 → Roaming.Message → Except SessionError Unit

namespace Peers

/-- Both collaborators do what they are asked. -/
def working : Peers where
  userPlane _ := .ok ()
  commit _ _ := .ok ()

/-- Each collaborator fails for the given reason, if there is one. -/
def failing (userPlane commit : Option String) : Peers where
  userPlane request :=
    match userPlane with
    | some reason => .error (.userPlane request reason)
    | none => .ok ()
  commit transaction _ :=
    match commit with
    | some reason => .error (.commit transaction reason)
    | none => .ok ()

end Peers

end SessionControl
