import SessionControl.Proofs.Roaming.Language
import SessionControl.Proofs.Trace.Result

/-!
# What an event asks of the collaborators

The action that an event asks for decides what a session calls while the event is run: first what
is done for the message, and apart from that the timer. A request of the peer that is admitted is
carried out on the user plane, and it is accepted only if that succeeded.

## Main definitions

- `Roaming.Served` — the signalling for a message that is answered, and what comes of it
- `Roaming.Action.perform`, `Roaming.Action.timerCalls` — the two parts of an action
- `Session.traceEvents` — a list of events with all the calls that are made

## Main statements

- `Session.calls_dispatch`, `Session.outcome_dispatch` — the action decides what is called and
  what the caller learns
- `Session.served_of_run` — a request is not accepted unless it was carried out
-/

namespace SessionControl

/-- A request to the user-plane node or a message to the peer. -/
def Call.isSignalling : Call → Bool
  | .userPlane .. | .commit .. => true
  | .startTimer .. | .stopTimer .. | .bind .. | .connect .. | .set .. | .delete ..
  | .disconnect => false

namespace Roaming

/-! ## Answering a message -/

/-- The signalling for a message on transaction `id` that is answered by `answer`, and what comes of
it. The answer is sent unless the user plane was asked something and failed. -/
inductive Served (peers : Peers) (imsi : String) (machine : Machine) (id : UInt64)
    (answer : Message) : Option UserPlaneRequest → List Call → Except SessionError Unit → Prop
  | refused {r : UserPlaneRequest} {e : SessionError} : peers.userPlane r = .error e →
      Served peers imsi machine id answer (some r) [.userPlane r imsi machine] (.error e)
  | carriedOut {r : UserPlaneRequest} : peers.userPlane r = .ok () →
      Served peers imsi machine id answer (some r)
        [.userPlane r imsi machine, .commit id answer] (peers.commit id answer)
  | nothingAsked :
      Served peers imsi machine id answer none [.commit id answer] (peers.commit id answer)

theorem Served.isSignalling {peers : Peers} {imsi : String} {machine : Machine} {id : UInt64}
    {m : Message} {request : Option UserPlaneRequest} {calls : List Call}
    {result : Except SessionError Unit} (h : Served peers imsi machine id m request calls result) :
    ∀ c ∈ calls, c.isSignalling := by
  cases h <;> simp [Call.isSignalling]

theorem served_answer (peers : Peers) (s : Session) (id : UInt64) (m : Message) :
    Served peers s.imsi s.machine id m none (answer peers s.imsi id m).run.calls
      (answer peers s.imsi id m).run.value := by
  have hrun : (answer peers s.imsi id m).run.calls = [.commit id m] ∧
      (answer peers s.imsi id m).run.value = peers.commit id m := by
    unfold answer
    cases h : peers.commit id m with
    | ok u => exact ⟨rfl, rfl⟩
    | error e => exact ⟨rfl, rfl⟩
  rw [hrun.1, hrun.2]
  exact .nothingAsked

/-- The user plane is asked first, and the answer is sent if that succeeded. -/
theorem served_carryOut_answer (peers : Peers) (s : Session) (r : UserPlaneRequest)
    (id : UInt64) (m : Message) :
    Served peers s.imsi s.machine id m (some r)
      (carryOut peers s r >>= fun _ => answer peers s.imsi id m).run.calls
      (carryOut peers s r >>= fun _ => answer peers s.imsi id m).run.value := by
  have hask : (carryOut peers s r).run.calls = [.userPlane r s.imsi s.machine] ∧
      (carryOut peers s r).run.value = peers.userPlane r := by
    unfold carryOut
    cases h : peers.userPlane r with
    | ok u => exact ⟨rfl, rfl⟩
    | error e => exact ⟨rfl, rfl⟩
  obtain ⟨hcalls, hvalue⟩ := hask
  cases hr : peers.userPlane r with
  | error e =>
    rw [hr] at hvalue
    rw [Traced.run_bind_of_error hvalue, Traced.calls_bind, hcalls]
    exact .refused hr
  | ok u =>
    rw [hr] at hvalue
    rw [Traced.run_bind_of_ok hvalue, Traced.calls_bind, Traced.value_bind, hcalls]
    have hanswer := served_answer peers s id m
    generalize (answer peers s.imsi id m).run = sent at hanswer
    rcases sent with ⟨value, calls, notices⟩
    cases hanswer
    exact .carriedOut hr

/-- A request is served with the accepting response of its procedure, whose cause is 16. -/
theorem served_handleRequest (peers : Peers) (s : Session) (id : UInt64) (p : Procedure)
    (request : Option UserPlaneRequest) :
    Served peers s.imsi s.machine id (p.response (some 16)) request
      (handleRequest peers s id p request).run.calls
      (handleRequest peers s id p request).run.value := by
  cases request with
  | none => exact served_answer peers s id (p.response (some 16))
  | some r => exact served_carryOut_answer peers s r id (p.response (some 16))

theorem served_handleCommand (peers : Peers) (s : Session) (id : UInt64)
    (linkedBearer : Option UInt8) :
    Served peers s.imsi s.machine id (.bearerResourceFailureIndication (some 16))
      (linkedBearer.map fun _ => .modify)
      (handleCommand peers s id linkedBearer).run.calls
      (handleCommand peers s id linkedBearer).run.value := by
  cases linkedBearer with
  | none => exact served_answer peers s id (.bearerResourceFailureIndication (some 16))
  | some b =>
    exact served_carryOut_answer peers s .modify id (.bearerResourceFailureIndication (some 16))

/-! ## The two parts of an action -/

/-- What an action does for its message. -/
def Action.perform (peers : Peers) (s : Session) (id : UInt64) :
    Action → Traced (Except SessionError Unit)
  | .createSession => (handleRequest peers s id .createSession (some .establish)).run
  | .modifyBearer hasBearerContexts =>
    (handleRequest peers s id .modifyBearer (if hasBearerContexts then some .modify else none)).run
  | .deleteSession => (handleRequest peers s id .deleteSession (some .delete)).run
  | .resourceCommand linkedBearer => (handleCommand peers s id linkedBearer).run
  | .response p cause => (checkResponse s.imsi p cause).run
  | .resourceFailure _ | .violation | .timeout | .ignore => pure (.ok ())

/-- A request starts the timer of its transaction, if the timer is used. -/
def ResponseTimer.startCalls (timer : ResponseTimer) (id : UInt64) : List Call :=
  if timer.enabled then [.startTimer id timer.seconds] else []

/-- Closing the open transaction stops its timer, whether or not the timer is used. -/
def Machine.stopCalls (m : Machine) : List Call :=
  match m.transaction with
  | some t => [.stopTimer t.id]
  | none => []

/-- What an action does with the timer. -/
def Action.timerCalls (timer : ResponseTimer) (m : Machine) (id : UInt64) : Action → List Call
  | .createSession | .modifyBearer _ | .deleteSession => timer.startCalls id
  | .response _ _ | .violation | .timeout => m.stopCalls
  | .resourceCommand _ | .resourceFailure _ | .ignore => []

/-- What the caller learns about a message that was admitted. -/
def Outcome.ofResult (before next : State) : Except SessionError Unit → Outcome
  | .error e => .failed next e
  | .ok () => if next = before then .handled else .entered next

/-- What the caller learns about an action, given what came of it. -/
def Action.outcome (before next : State) (result : Except SessionError Unit) : Action → Outcome
  | .ignore => .ignored
  | .violation => .violation
  | .timeout => .timeout
  | .createSession | .modifyBearer _ | .deleteSession | .resourceCommand _ | .resourceFailure _
  | .response _ _ => .ofResult before next result

theorem run_checkResponse_calls (imsi : String) (p : Procedure) (cause : Option UInt8) :
    (checkResponse imsi p cause).run.calls = [] := by
  cases cause with
  | none => rfl
  | some cause =>
    unfold checkResponse
    dsimp only
    split <;> rfl

/-- An action is one for a message that is answered, or it signals nothing. -/
theorem Action.isSignalling_of_perform (peers : Peers) (s : Session) (id : UInt64)
    (action : Action) : ∀ c ∈ (action.perform peers s id).calls, c.isSignalling := by
  cases action with
  | createSession => exact (served_handleRequest peers s id _ _).isSignalling
  | modifyBearer hasBearerContexts => exact (served_handleRequest peers s id _ _).isSignalling
  | deleteSession => exact (served_handleRequest peers s id _ _).isSignalling
  | resourceCommand linkedBearer =>
    exact (served_handleCommand peers s id linkedBearer).isSignalling
  | response p cause => simp [perform, run_checkResponse_calls]
  | resourceFailure _ | violation | timeout | ignore => simp [perform]

theorem Action.not_isSignalling_of_timerCalls (timer : ResponseTimer) (m : Machine) (id : UInt64)
    (action : Action) : ∀ c ∈ action.timerCalls timer m id, c.isSignalling = false := by
  have hstart : ∀ c ∈ timer.startCalls id, c.isSignalling = false := by
    unfold ResponseTimer.startCalls
    split <;> simp [Call.isSignalling]
  have hstop : ∀ c ∈ m.stopCalls, c.isSignalling = false := by
    unfold Machine.stopCalls
    split <;> simp [Call.isSignalling]
  cases action with
  | createSession | modifyBearer _ | deleteSession => exact hstart
  | response _ _ | violation | timeout => exact hstop
  | resourceCommand _ | resourceFailure _ | ignore => simp [timerCalls]

end Roaming

namespace Session

open Roaming (Action Event Machine Message Outcome Procedure ResponseTimer Served State)

variable {timer : ResponseTimer} {peers : Peers} {s : Session}

@[simp]
theorem calls_openTransaction (s : Session) (timer : ResponseTimer) (id : UInt64)
    (p : Procedure) : (s.openTransaction timer id p).calls = timer.startCalls id := by
  simp only [openTransaction, ResponseTimer.startCalls]
  split <;> rfl

@[simp]
theorem calls_closeTransaction (s : Session) :
    s.closeTransaction.calls = s.machine.stopCalls := by
  unfold closeTransaction Machine.stopCalls
  cases s.machine.transaction <;> rfl

@[simp]
theorem calls_conclude (s : Session) (before next : State)
    (result : Except SessionError Unit) : (s.conclude before next result).calls = [] := by
  simp only [conclude]
  split <;> rfl

theorem calls_dispatchStarted (s : Session) (timer : ResponseTimer) (peers : Peers)
    (e : Event) :
    (s.dispatchStarted timer peers e).calls =
      ((Roaming.transition s.state e s.machine.transaction).2.perform peers s
          e.transaction).calls ++
        (Roaming.transition s.state e s.machine.transaction).2.timerCalls timer s.machine
          e.transaction := by
  unfold dispatchStarted
  simp only [Traced.calls_bind, Traced.calls_note, List.nil_append]
  split <;> rename_i h <;> rw [h] <;>
    simp [Action.perform, Action.timerCalls, beginProcedure, Roaming.run_checkResponse_calls]

@[simp]
theorem outcome_conclude (s : Session) (before next : State) (result : Except SessionError Unit) :
    (s.conclude before next result).value.1 = .ofResult before next result := by
  by_cases h : next = before <;> cases result <;> simp [conclude, h, Outcome.ofResult]

theorem outcome_dispatchStarted (s : Session) (timer : ResponseTimer) (peers : Peers)
    (e : Event) :
    (s.dispatchStarted timer peers e).value.1 =
      (Roaming.transition s.state e s.machine.transaction).2.outcome s.state
        (Roaming.transition s.state e s.machine.transaction).1
        ((Roaming.transition s.state e s.machine.transaction).2.perform peers s
          e.transaction).value := by
  unfold dispatchStarted
  simp only [Traced.value_bind]
  split <;> rename_i h <;> rw [h] <;> simp [Action.perform, Action.outcome, beginProcedure]

/-! ## An event -/

/-- A session whose machine has begun, if it had not. -/
def begun (s : Session) : Session :=
  if s.state = .initial then s.startMachine.value else s

theorem begun_eq (s : Session) :
    s.begun = { s with machine := { s.machine with state := s.begun.state } } := by
  unfold begun
  split <;> rfl

theorem transition_begun (s : Session) (e : Event) (held : Option Roaming.Transaction) :
    Roaming.transition s.begun.state e held = Roaming.transition s.state e held := by
  unfold begun
  split
  · next h => rw [h]; rfl
  · rfl

theorem begun_state_of_open (h : s.state = .initial ∨ s.state = .operational) :
    s.begun.state = .operational := by
  unfold begun
  rcases h with h | h
  · rw [if_pos h]; rfl
  · rw [if_neg (by simp [h]), h]

/-- A session that has not begun begins, and that calls nothing. -/
theorem dispatch_eq_begun (s : Session) (timer : ResponseTimer) (peers : Peers) (e : Event) :
    (s.dispatch timer peers e).calls = (s.begun.dispatchStarted timer peers e).calls ∧
      (s.dispatch timer peers e).value = (s.begun.dispatchStarted timer peers e).value := by
  unfold dispatch begun
  split
  · exact ⟨rfl, rfl⟩
  · exact ⟨rfl, rfl⟩

/-- The action that an event asks for decides what is called. -/
theorem calls_dispatch (s : Session) (timer : ResponseTimer) (peers : Peers) (e : Event) :
    (s.dispatch timer peers e).calls =
      ((Roaming.transition s.state e s.machine.transaction).2.perform peers s.begun
          e.transaction).calls ++
        (Roaming.transition s.state e s.machine.transaction).2.timerCalls timer s.machine
          e.transaction := by
  have hheld : s.begun.machine.transaction = s.machine.transaction := by rw [begun_eq]
  have htimer : ∀ action : Action, action.timerCalls timer s.begun.machine e.transaction =
      action.timerCalls timer s.machine e.transaction := by
    intro action
    cases action <;> simp [Action.timerCalls, Machine.stopCalls, hheld]
  rw [(s.dispatch_eq_begun timer peers e).1, calls_dispatchStarted, hheld, transition_begun,
    htimer]

/-- The action that an event asks for decides what the caller learns. -/
theorem outcome_dispatch (s : Session) (timer : ResponseTimer) (peers : Peers) (e : Event) :
    (s.dispatch timer peers e).value.1 =
      (Roaming.transition s.state e s.machine.transaction).2.outcome s.begun.state
        (Roaming.transition s.state e s.machine.transaction).1
        ((Roaming.transition s.state e s.machine.transaction).2.perform peers s.begun
          e.transaction).value := by
  have hheld : s.begun.machine.transaction = s.machine.transaction := by rw [begun_eq]
  rw [(s.dispatch_eq_begun timer peers e).2, outcome_dispatchStarted, hheld, transition_begun]

end Session

namespace Roaming

/-! ## Requests that are admitted -/

/-- What a message asks of the user plane, if it is a request. -/
def Message.userPlaneRequest? : Message → Option UserPlaneRequest
  | .createSessionRequest => some .establish
  | .modifyBearerRequest hasBearerContexts => if hasBearerContexts then some .modify else none
  | .deleteSessionRequest => some .delete
  | .createSessionResponse _ | .modifyBearerResponse _ | .deleteSessionResponse _
  | .bearerResourceCommand _ | .bearerResourceFailureIndication _ => none

/-- An action does something for a message only if the message is admitted, and is a request or a
bearer resource command. -/
theorem open_of_mem_perform {state : State} {e : Event} {held : Option Transaction}
    {peers : Peers} {s : Session} {id : UInt64} {c : Call}
    (hc : c ∈ ((transition state e held).2.perform peers s id).calls) :
    (state = .initial ∨ state = .operational) ∧
      ∃ id m, e = .message id m ∧
        (m.requests?.isSome ∨ ∃ linkedBearer, m = .bearerResourceCommand linkedBearer) := by
  cases state with
  | initial | operational =>
    refine ⟨by simp, ?_⟩
    rcases e with ⟨id, m⟩ | id
    · refine ⟨id, m, rfl, ?_⟩
      cases m with
      | createSessionRequest | modifyBearerRequest _ | deleteSessionRequest => exact .inl rfl
      | bearerResourceCommand linkedBearer => exact .inr ⟨linkedBearer, rfl⟩
      | createSessionResponse _ | modifyBearerResponse _ | deleteSessionResponse _
      | bearerResourceFailureIndication _ => exact absurd hc List.not_mem_nil
    · exact absurd hc List.not_mem_nil
  | waiting p =>
    -- A response that is admitted is checked, and anything else is a violation or a timeout.
    exfalso
    rcases e with ⟨id, m⟩ | id
    · simp only [transition, whenWaiting] at hc
      split at hc
      · simp [Action.perform, run_checkResponse_calls] at hc
      · simp [Action.perform] at hc
    · exact absurd hc List.not_mem_nil
  | final | exception => exact absurd hc List.not_mem_nil

theorem perform_eq_of_outcome {action : Action} {before next : State}
    {result : Except SessionError Unit} {peers : Peers} {s : Session} {id : UInt64}
    (h : action.outcome before next result ∈ [Outcome.violation, .timeout, .ignored]) :
    action.perform peers s id = pure (.ok ()) := by
  have hresult : Outcome.ofResult before next result ∉ [Outcome.violation, .timeout, .ignored] := by
    cases result with
    | error e => simp [Outcome.ofResult]
    | ok u => by_cases hnext : next = before <;> simp [Outcome.ofResult, hnext]
  cases action with
  | violation | timeout | ignore => rfl
  | createSession | modifyBearer _ | deleteSession | resourceCommand _ | resourceFailure _
  | response _ _ => exact absurd h hresult

/-- A request is admitted by an action that serves it and starts the timer. -/
theorem whenOperational_of_requests? {m : Message} {p : Procedure} (h : m.requests? = some p)
    (id : UInt64) :
    ∃ action : Action, whenOperational (.message id m) = (.waiting p, action) ∧
      (∀ peers s, action.perform peers s id =
        (handleRequest peers s id p m.userPlaneRequest?).run) ∧
      (∀ timer machine, action.timerCalls timer machine id = timer.startCalls id) ∧
      (∀ timer held, action.openAfter timer id held =
        some { id, procedure := p, timeout := timer.seconds }) ∧
      ∀ before next result, action.outcome before next result = .ofResult before next result := by
  cases m <;> simp only [Message.requests?, Option.some.injEq, reduceCtorEq] at h
  all_goals
    subst h
    exact ⟨_, rfl, fun _ _ => rfl, fun _ _ => rfl, fun _ _ => rfl, fun _ _ _ => rfl⟩

end Roaming

namespace Session

open Roaming (Action Event Machine Message Outcome Procedure ResponseTimer Served State)

variable {timer : ResponseTimer} {peers : Peers} {s : Session}

/-- A request that is admitted is served, and opens its transaction whether or not that succeeds. -/
theorem served_dispatch {id : UInt64} {m : Message} {p : Procedure} (hm : m.requests? = some p)
    (hs : s.state = .initial ∨ s.state = .operational) (timer : ResponseTimer) (peers : Peers) :
    ∃ calls result,
      Served peers s.imsi { s.machine with state := .operational } id (p.response (some 16))
        m.userPlaneRequest? calls result ∧
      (s.dispatch timer peers (.message id m)).calls = calls ++ timer.startCalls id ∧
      (s.dispatch timer peers (.message id m)).value.1 =
        .ofResult .operational (.waiting p) result ∧
      (s.dispatch timer peers (.message id m)).value.2.machine =
        { state := .waiting p
          transaction := some { id, procedure := p, timeout := timer.seconds } } := by
  obtain ⟨action, htransition, hperform, htimer, hheld, houtcome⟩ :=
    Roaming.whenOperational_of_requests? hm id
  have hopen : Roaming.transition s.state (.message id m) s.machine.transaction =
      (.waiting p, action) := by
    rw [← htransition]
    rcases hs with hs | hs <;> rw [hs] <;> rfl
  have hbegun : s.begun = { s with machine := { s.machine with state := .operational } } := by
    rw [begun_eq, begun_state_of_open hs]
  refine ⟨(Roaming.handleRequest peers s.begun id p m.userPlaneRequest?).run.calls,
    (Roaming.handleRequest peers s.begun id p m.userPlaneRequest?).run.value, ?_, ?_, ?_, ?_⟩
  · have hserved := Roaming.served_handleRequest peers s.begun id p m.userPlaneRequest?
    rw [hbegun] at hserved ⊢
    exact hserved
  · simp only [calls_dispatch, hopen, Event.transaction, hperform, htimer]
  · simp only [outcome_dispatch, hopen, Event.transaction, houtcome, hperform,
      begun_state_of_open hs]
  · simp only [session_dispatch, Machine.step]
    rw [show Roaming.transition s.machine.state (.message id m) s.machine.transaction =
      (.waiting p, action) from hopen]
    simp only [Event.transaction, hheld]

/-- Only a request or a bearer resource command that is admitted makes a session signal anything. -/
theorem open_of_isSignalling {e : Event} {c : Call} (hc : c ∈ (s.dispatch timer peers e).calls)
    (hsignal : c.isSignalling) :
    (s.state = .initial ∨ s.state = .operational) ∧
      ∃ id m, e = .message id m ∧
        (m.requests?.isSome ∨ ∃ linkedBearer, m = .bearerResourceCommand linkedBearer) := by
  rw [calls_dispatch, List.mem_append] at hc
  refine Roaming.open_of_mem_perform (hc.resolve_right fun htimer => ?_)
  rw [Action.not_isSignalling_of_timerCalls _ _ _ _ c htimer] at hsignal
  exact Bool.false_ne_true hsignal

/-- An event that is not valid, overdue or ignored makes a session signal nothing. -/
theorem not_isSignalling_of_outcome {e : Event}
    (h : (s.dispatch timer peers e).value.1 ∈ [Outcome.violation, .timeout, .ignored]) {c : Call}
    (hc : c ∈ (s.dispatch timer peers e).calls) : c.isSignalling = false := by
  rw [calls_dispatch, List.mem_append] at hc
  rw [outcome_dispatch] at h
  refine hc.elim (fun hperform => ?_) (Action.not_isSignalling_of_timerCalls _ _ _ _ c)
  rw [Roaming.perform_eq_of_outcome h] at hperform
  exact absurd hperform List.not_mem_nil

/-! ## Runs -/

/-- A list of events, each with the answers of the collaborators to it, and all calls made. -/
def traceEvents (timer : ResponseTimer) (s : Session) (es : List (Peers × Event)) :
    Traced Session :=
  es.foldlM (fun s x => Prod.snd <$> s.dispatch timer x.1 x.2) s

@[simp]
theorem value_traceEvents (timer : ResponseTimer) (s : Session) (es : List (Peers × Event)) :
    (s.traceEvents timer es).value = s.runEvents timer es :=
  Traced.value_foldlM _ s es

theorem calls_traceEvents_cons (timer : ResponseTimer) (s : Session) (x : Peers × Event)
    (es : List (Peers × Event)) :
    (s.traceEvents timer (x :: es)).calls =
      (s.dispatch timer x.1 x.2).calls ++
        ((s.dispatch timer x.1 x.2).value.2.traceEvents timer es).calls := by
  rw [traceEvents, List.foldlM_cons, Traced.calls_bind, Traced.calls_map]
  rfl

theorem calls_traceEvents_append (timer : ResponseTimer) (s : Session)
    (es es' : List (Peers × Event)) :
    (s.traceEvents timer (es ++ es')).calls =
      (s.traceEvents timer es).calls ++ ((s.runEvents timer es).traceEvents timer es').calls := by
  rw [traceEvents, List.foldlM_append, Traced.calls_bind, ← value_traceEvents]
  rfl

theorem calls_traceEvents_concat (timer : ResponseTimer) (s : Session)
    (es : List (Peers × Event)) (x : Peers × Event) :
    (s.traceEvents timer (es ++ [x])).calls =
      (s.traceEvents timer es).calls ++
        ((s.runEvents timer es).dispatch timer x.1 x.2).calls := by
  rw [calls_traceEvents_append, calls_traceEvents_cons]
  exact congrArg _ (List.append_nil _)

/-- Success is never made up towards the peer. In a run of events from any session, the calls of
an event follow those of the events before it and precede those of the events after it. If the
event is a request that is admitted, it is served: the user plane is asked at most once, for what
belongs to the request, then the request is accepted with cause 16 on its own transaction unless
the user plane failed, and an error of either call is the one that the caller learns, while the
transaction is opened all the same. Apart from admitted requests only a bearer resource command
that is admitted makes a session ask the user plane or tell the peer anything. -/
theorem served_of_run (timer : ResponseTimer) (s : Session) (before after : List (Peers × Event))
    (peers : Peers) (e : Event) :
    let now := s.runEvents timer before
    let step := now.dispatch timer peers e
    (s.traceEvents timer (before ++ (peers, e) :: after)).calls =
      (s.traceEvents timer before).calls ++ step.calls ++
        (step.value.2.traceEvents timer after).calls ∧
    (∀ id m p, e = .message id m → m.requests? = some p →
      now.state = .initial ∨ now.state = .operational →
      ∃ calls result,
        Served peers now.imsi { now.machine with state := .operational } id (p.response (some 16))
          m.userPlaneRequest? calls result ∧
        step.calls = calls ++ timer.startCalls id ∧
        (∀ error, result = .error error → step.value.1 = .failed (.waiting p) error) ∧
        (result = .ok () → step.value.1 = .entered (.waiting p)) ∧
        step.value.2.machine =
          { state := .waiting p
            transaction := some { id, procedure := p, timeout := timer.seconds } }) ∧
    ((∃ c ∈ step.calls, c.isSignalling) →
      (now.state = .initial ∨ now.state = .operational) ∧
        ∃ id m, e = .message id m ∧
          (m.requests?.isSome ∨ ∃ linkedBearer, m = .bearerResourceCommand linkedBearer)) ∧
    (step.value.1 ∈ [Outcome.violation, .timeout, .ignored] →
      ∀ c ∈ step.calls, c.isSignalling = false) := by
  intro now step
  refine ⟨?_, ?_, ?_, ?_⟩
  · rw [calls_traceEvents_append, calls_traceEvents_cons, List.append_assoc]
  · intro id m p he hm hs
    subst he
    obtain ⟨calls, result, hserved, hcalls, houtcome, hmachine⟩ :=
      served_dispatch hm hs timer peers
    refine ⟨calls, result, hserved, hcalls, ?_, ?_, hmachine⟩
    · rintro error rfl
      exact houtcome
    · rintro rfl
      exact houtcome
  · rintro ⟨c, hc, hsignal⟩
    exact open_of_isSignalling hc hsignal
  · intro houtcome c hc
    exact not_isSignalling_of_outcome houtcome hc

/-- The user plane fails to delete a session that was created before, so the peer gets no answer. -/
theorem served_of_run_refused :
    let s := Session.new 1 1 "001010000000001" (some "internet")
    let created : List (Peers × Event) := [(.working, .message 7 .createSessionRequest),
      (.working, .message 7 (.createSessionResponse (some 16)))]
    let peers := Peers.failing (some "no answer") none
    let step := (s.runEvents (.ofSeconds 3) created).dispatch (.ofSeconds 3) peers
      (.message 9 .deleteSessionRequest)
    (∀ c ∈ step.calls, ∀ id m, c ≠ .commit id m) ∧
      step.value.1 = .failed (.waiting .deleteSession) (.userPlane .delete "no answer") := by
  intro s created peers step
  have hnow : (s.runEvents (.ofSeconds 3) created).state = .operational := by
    rw [runEvents_eq]
    rfl
  obtain ⟨-, hrequest, -, -⟩ := served_of_run (.ofSeconds 3) s created [] peers
    (.message 9 .deleteSessionRequest)
  obtain ⟨calls, result, hserved, hcalls, herror, -, -⟩ :=
    hrequest 9 .deleteSessionRequest .deleteSession rfl rfl (.inr hnow)
  cases hserved with
  | refused hr =>
    refine ⟨?_, ?_⟩
    · rintro c hc id m rfl
      rw [hcalls] at hc
      simp [ResponseTimer.startCalls, ResponseTimer.ofSeconds] at hc
    · rw [herror _ rfl]
      cases hr
      rfl
  | carriedOut hr => cases hr

end Session

end SessionControl
