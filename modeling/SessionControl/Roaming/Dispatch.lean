import SessionControl.Roaming.Exchange
import SessionControl.Roaming.ResponseTimer

/-!
# Running roaming events

An event is run through the state machine of its session: the table gives the next state and the
action, the action is carried out, and the open transaction and its timer follow the state. The
next state is entered whether or not the action succeeded.

## Main definitions

- `Roaming.Outcome` — what a caller learns about an event
- `Session.openTransaction`, `Session.closeTransaction` — the transaction and its timer
- `Session.startMachine`, `Session.stopMachine` — putting the machine into and out of use
- `Session.dispatch` — one event
-/

namespace SessionControl

namespace Roaming

/-- What a caller learns about an event. -/
inductive Outcome where
  /-- The action succeeded and the state is the same. -/
  | handled
  /-- The action succeeded and a new state was entered. -/
  | entered (state : State)
  /-- The action failed; the state was entered all the same. -/
  | failed (next : State) (error : SessionError)
  /-- The event was not valid; the session is in the exception state. -/
  | violation
  /-- A response was overdue; the session is in the exception state. -/
  | timeout
  /-- The state is terminal and nothing was done. -/
  | ignored
  deriving DecidableEq, Repr

end Roaming

namespace Session

open Roaming (Event Outcome Procedure ResponseTimer State)

def startMachine (s : Session) : Traced Session := do
  Traced.note (.machineAt .initial)
  pure { s with machine := { s.machine with state := .operational } }

def stopMachine (s : Session) : Traced Session := do
  Traced.note (.machineAt .final)
  pure { s with machine := { state := .final, transaction := none } }

def enter (s : Session) (state : State) : Session :=
  { s with machine := { s.machine with state } }

/-- Opens a transaction and starts its timer, if the timer is used. -/
def openTransaction (s : Session) (timer : ResponseTimer) (id : UInt64)
    (procedure : Procedure) : Traced Session := do
  if timer.enabled then Traced.call (.startTimer id timer.seconds)
  let transaction := { id, procedure, timeout := timer.seconds }
  pure { s with machine := { s.machine with transaction := some transaction } }

/-- Closes the open transaction, if there is one, and stops its timer. -/
def closeTransaction (s : Session) : Traced Session :=
  match s.machine.transaction with
  | some t => do
    Traced.call (.stopTimer t.id)
    pure { s with machine := { s.machine with transaction := none } }
  | none => pure s

/-- Handles a request of the peer, and opens its transaction even if that failed. -/
def beginProcedure (s : Session) (timer : ResponseTimer) (peers : Peers) (id : UInt64)
    (procedure : Procedure) (request : Option UserPlaneRequest) :
    Traced (Except SessionError Unit × Session) := do
  let result ← (Roaming.handleRequest peers s id procedure request).run
  let s ← s.openTransaction timer id procedure
  pure (result, s)

/-- Enters the next state and says how the event went. -/
def conclude (s : Session) (before next : State) (result : Except SessionError Unit) :
    Traced (Outcome × Session) := do
  if next ≠ before then Traced.note (.stateChanged s.imsi before next)
  let outcome :=
    match result with
    | .error e => .failed next e
    | .ok () => if next = before then .handled else .entered next
  pure (outcome, s.enter next)

/-- Runs an event through the machine of a session that has begun. -/
def dispatchStarted (s : Session) (timer : ResponseTimer) (peers : Peers) (event : Event) :
    Traced (Outcome × Session) := do
  let before := s.state
  let (next, action) := Roaming.transition before event s.machine.transaction
  let id := event.transaction
  Traced.note (.eventArrived s.imsi before event)
  match action with
  | .ignore =>
    Traced.note (.eventIgnored s.imsi before event)
    pure (.ignored, s)
  | .violation =>
    Traced.note (.eventUnexpected s.imsi before event)
    let s ← s.closeTransaction
    pure (.violation, s.enter next)
  | .timeout =>
    Traced.note (.responseOverdue s.imsi before event)
    let s ← s.closeTransaction
    pure (.timeout, s.enter next)
  | .createSession =>
    let (result, s) ← s.beginProcedure timer peers id .createSession (some .establish)
    s.conclude before next result
  | .modifyBearer hasBearerContexts =>
    let request := if hasBearerContexts then some .modify else none
    let (result, s) ← s.beginProcedure timer peers id .modifyBearer request
    s.conclude before next result
  | .deleteSession =>
    let (result, s) ← s.beginProcedure timer peers id .deleteSession (some .delete)
    s.conclude before next result
  | .resourceCommand linkedBearer =>
    let result ← (Roaming.handleCommand peers s id linkedBearer).run
    s.conclude before next result
  | .resourceFailure cause =>
    Traced.note (.failureIndicated s.imsi cause)
    s.conclude before next (.ok ())
  | .response procedure cause =>
    let s ← s.closeTransaction
    let result ← (Roaming.checkResponse s.imsi procedure cause).run
    s.conclude before next result

/-- Runs an event through the machine of a session. A session that has not begun begins. -/
def dispatch (s : Session) (timer : ResponseTimer) (peers : Peers) (event : Event) :
    Traced (Outcome × Session) := do
  let s ← if s.state = .initial then s.startMachine else pure s
  s.dispatchStarted timer peers event

end Session

end SessionControl
