import SessionControl.Roaming.Dispatch

/-!
# One step of the roaming machine

Running an event changes a session in its machine only, and the new machine depends on the old
one, the event and the timer setting alone. Neither the collaborators nor the session itself has
a say in it, so runs of sessions are runs of machines.

## Main definitions

- `Roaming.Machine.step` — the machine after an event, as a plain function
- `Session.runEvents` — a session after a list of events

## Main statements

- `Session.session_dispatch` — running an event steps the machine and keeps the rest
- `Session.runEvents_eq` — running a list of events folds the step over it
-/

namespace SessionControl

namespace Roaming

/-- The transaction that is open after an action. A request opens its own; a bearer resource
message and an ignored event leave what is there; anything else leaves none. -/
def Action.openAfter (timer : ResponseTimer) (id : UInt64) (held : Option Transaction) :
    Action → Option Transaction
  | .createSession => some { id, procedure := .createSession, timeout := timer.seconds }
  | .modifyBearer _ => some { id, procedure := .modifyBearer, timeout := timer.seconds }
  | .deleteSession => some { id, procedure := .deleteSession, timeout := timer.seconds }
  | .resourceCommand _ | .resourceFailure _ | .ignore => held
  | .response _ _ | .violation | .timeout => none

/-- The machine after an event. -/
def Machine.step (timer : ResponseTimer) (m : Machine) (e : Event) : Machine :=
  { state := (transition m.state e m.transaction).1
    transaction :=
      (transition m.state e m.transaction).2.openAfter timer e.transaction m.transaction }

/-- Only a terminal state ignores an event, and it is not left. -/
theorem transition_fst_of_ignore {state : State} {e : Event} {held : Option Transaction}
    (h : (transition state e held).2 = .ignore) : (transition state e held).1 = state := by
  cases state with
  | final => rfl
  | exception => rfl
  | initial | operational =>
    rcases e with ⟨id, m⟩ | id
    · cases m <;> simp [transition, whenOperational] at h
    · simp [transition, whenOperational] at h
  | waiting p =>
    rcases e with ⟨id, m⟩ | id
    · simp only [transition, whenWaiting] at h
      split at h <;> simp at h
    · simp [transition, whenWaiting] at h

theorem Machine.state_step_ne_initial (timer : ResponseTimer) (m : Machine) (e : Event) :
    (m.step timer e).state ≠ .initial := by
  rcases m with ⟨state, held⟩
  cases state with
  | initial | operational =>
    rcases e with ⟨id, msg⟩ | id
    · cases msg <;> simp [step, transition, whenOperational]
    · simp [step, transition, whenOperational]
  | waiting p =>
    rcases e with ⟨id, msg⟩ | id
    · simp only [step, transition, whenWaiting]
      split
      · cases p <;> simp [afterResponse]
      · simp
    · simp [step, transition, whenWaiting]
  | final | exception => simp [step, transition]

/-- A machine that has not begun steps like one that has. -/
theorem Machine.step_begun (timer : ResponseTimer) {m : Machine} (h : m.state = .initial)
    (e : Event) : Machine.step timer { m with state := .operational } e = m.step timer e := by
  simp [Machine.step, transition, h]

end Roaming

namespace Session

open Roaming (Event Machine Procedure ResponseTimer State)

@[simp]
theorem value_startMachine (s : Session) :
    s.startMachine.value = { s with machine := { s.machine with state := .operational } } := rfl

@[simp]
theorem value_stopMachine (s : Session) :
    s.stopMachine.value = { s with machine := { state := .final, transaction := none } } := rfl

@[simp]
theorem value_openTransaction (s : Session) (timer : ResponseTimer) (id : UInt64)
    (p : Procedure) :
    (s.openTransaction timer id p).value = { s with machine := { s.machine with
      transaction := some { id, procedure := p, timeout := timer.seconds } } } := by
  cases h : timer.enabled <;> simp [openTransaction, h]

@[simp]
theorem value_closeTransaction (s : Session) :
    s.closeTransaction.value = { s with machine := { s.machine with transaction := none } } := by
  unfold closeTransaction
  split
  · rfl
  · next h => simp [← h]

/-- A request opens its transaction whether or not it could be carried out. -/
@[simp]
theorem session_beginProcedure (s : Session) (timer : ResponseTimer) (peers : Peers)
    (id : UInt64) (p : Procedure) (request : Option UserPlaneRequest) :
    (s.beginProcedure timer peers id p request).value.2 =
      (s.openTransaction timer id p).value := rfl

@[simp]
theorem session_conclude (s : Session) (before next : State)
    (result : Except SessionError Unit) :
    (s.conclude before next result).value.2 = s.enter next := by
  simp only [conclude]
  split <;> rfl

theorem session_dispatchStarted (s : Session) (timer : ResponseTimer) (peers : Peers)
    (e : Event) :
    (s.dispatchStarted timer peers e).value.2 = { s with machine := s.machine.step timer e } := by
  unfold dispatchStarted
  simp only [Traced.value_bind]
  split
  -- An ignored event changes nothing, and its transition stays in the state.
  case h_1 h =>
    have hs : (Roaming.transition s.state e s.machine.transaction).1 = s.state :=
      Roaming.transition_fst_of_ignore h
    simp only [state] at h hs
    simp [Machine.step, h, hs, Roaming.Action.openAfter]
  all_goals
    rename_i h
    simp only [state] at h
    simp [Machine.step, h, Roaming.Action.openAfter, enter, state]

/-- Running an event steps the machine of a session and keeps the rest of it, whatever the
collaborators answer. -/
theorem session_dispatch (s : Session) (timer : ResponseTimer) (peers : Peers) (e : Event) :
    (s.dispatch timer peers e).value.2 = { s with machine := s.machine.step timer e } := by
  by_cases h : s.state = .initial
  · have hs := session_dispatchStarted s.startMachine.value timer peers e
    rw [value_startMachine] at hs
    rw [Machine.step_begun timer h] at hs
    simpa [dispatch, h] using hs
  · simpa [dispatch, h] using session_dispatchStarted s timer peers e

/-- A session after a list of events, each with the answers of the collaborators to it. -/
def runEvents (timer : ResponseTimer) (s : Session) (es : List (Peers × Event)) : Session :=
  es.foldl (fun s x => (s.dispatch timer x.1 x.2).value.2) s

theorem runEvents_concat (timer : ResponseTimer) (s : Session) (es : List (Peers × Event))
    (x : Peers × Event) :
    s.runEvents timer (es ++ [x]) =
      ((s.runEvents timer es).dispatch timer x.1 x.2).value.2 := by
  rw [runEvents, List.foldl_append]
  rfl

/-- The machine after a list of events does not depend on what the collaborators answered. -/
theorem runEvents_eq (timer : ResponseTimer) (s : Session) (es : List (Peers × Event)) :
    s.runEvents timer es =
      { s with machine := (es.map Prod.snd).foldl (Machine.step timer) s.machine } := by
  induction es generalizing s with
  | nil => rfl
  | cons x es ih =>
    simp only [runEvents, List.foldl_cons, List.map_cons] at ih ⊢
    rw [session_dispatch, ih]

end Session

end SessionControl
