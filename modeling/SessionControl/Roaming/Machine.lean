import SessionControl.Roaming.Message

/-!
# The roaming state machine

Which message a roaming session accepts in which state. A session has at most one open
transaction: a request opens it, and the matching response closes it. Anything else while a
response is awaited, and anything but a request or a bearer resource message while none is, puts
the session into the exception state for good.

## Main definitions

- `Roaming.State`, `Roaming.Event`, `Roaming.Transaction`
- `Roaming.Action` — what an event asks for
- `Roaming.transition` — the next state and the action, for each state and event
- `Roaming.Machine` — the state of one session and its open transaction
-/

namespace SessionControl.Roaming

/-- The state of a roaming session. -/
inductive State where
  | initial
  | operational
  /-- The response of a procedure is awaited. -/
  | waiting (procedure : Procedure)
  | final
  | exception
  deriving DecidableEq, Repr, Inhabited

namespace State

def name : State → String
  | initial => "s8_state_initial"
  | operational => "s8_state_operational"
  | waiting .createSession => "s8_state_wait_create_response"
  | waiting .modifyBearer => "s8_state_wait_modify_response"
  | waiting .deleteSession => "s8_state_wait_delete_response"
  | final => "s8_state_final"
  | exception => "s8_state_exception"

/-- No event leaves the state. -/
def isTerminal : State → Bool
  | final | exception => true
  | initial | operational | waiting _ => false

end State

/-- What happens to a roaming session. -/
inductive Event where
  | message (transaction : UInt64) (message : Message)
  /-- No response came in time on a transaction. -/
  | timer (transaction : UInt64)
  deriving DecidableEq, Repr, Inhabited

namespace Event

def transaction : Event → UInt64
  | message id _ | timer id => id

def name : Event → String
  | message _ m => m.name
  | timer _ => "T3-RESPONSE expiry"

end Event

/-- An outstanding transaction. -/
structure Transaction where
  id : UInt64
  procedure : Procedure
  /-- Seconds to wait for the response. -/
  timeout : UInt64
  deriving DecidableEq, Repr, Inhabited

/-- What an event asks for. -/
inductive Action where
  | createSession
  | modifyBearer (hasBearerContexts : Bool)
  | deleteSession
  | resourceCommand (linkedBearer : Option UInt8)
  | resourceFailure (cause : Option UInt8)
  | response (procedure : Procedure) (cause : Option UInt8)
  /-- The event is not valid in the state. -/
  | violation
  /-- A timer ran out while a response was awaited. -/
  | timeout
  /-- The state is terminal. -/
  | ignore
  deriving DecidableEq, Repr, Inhabited

/-- The state that an accepted response of a procedure leads to. -/
def afterResponse : Procedure → State
  | .createSession | .modifyBearer => .operational
  | .deleteSession => .final

/-- The next state and the action for an event while no response is awaited. -/
def whenOperational : Event → State × Action
  | .message _ .createSessionRequest => (.waiting .createSession, .createSession)
  | .message _ (.modifyBearerRequest bearers) => (.waiting .modifyBearer, .modifyBearer bearers)
  | .message _ .deleteSessionRequest => (.waiting .deleteSession, .deleteSession)
  | .message _ (.bearerResourceCommand bearer) => (.operational, .resourceCommand bearer)
  | .message _ (.bearerResourceFailureIndication cause) =>
    (.operational, .resourceFailure cause)
  | .message _ (.createSessionResponse _)
  | .message _ (.modifyBearerResponse _)
  | .message _ (.deleteSessionResponse _)
  | .timer _ => (.exception, .violation)

/-- Whether the open transaction is the one of a procedure with the given number. -/
def isOpen (openTransaction : Option Transaction) (id : UInt64) (procedure : Procedure) : Bool :=
  match openTransaction with
  | some t => t.id == id && t.procedure == procedure
  | none => false

/-- The next state and the action for an event while the response of a procedure is awaited. -/
def whenWaiting (procedure : Procedure) (openTransaction : Option Transaction) :
    Event → State × Action
  | .timer _ => (.exception, .timeout)
  | .message id m =>
    match isOpen openTransaction id procedure, procedure.answeredBy? m with
    | true, some cause => (afterResponse procedure, .response procedure cause)
    | _, _ => (.exception, .violation)

/-- The next state and the action for an event. A session that has not begun accepts what an
operational one does. -/
def transition (state : State) (event : Event) (openTransaction : Option Transaction) :
    State × Action :=
  match state with
  | .initial | .operational => whenOperational event
  | .waiting procedure => whenWaiting procedure openTransaction event
  | .final => (.final, .ignore)
  | .exception => (.exception, .ignore)

/-- The state of one roaming session and its open transaction. -/
structure Machine where
  state : State := .initial
  transaction : Option Transaction := none
  deriving DecidableEq, Repr, Inhabited

end SessionControl.Roaming
