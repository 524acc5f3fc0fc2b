import SessionControl.Proofs.Roaming.Calls

/-!
# What the outcomes of events tell

The caller of a session learns one outcome for each event and nothing else. That is enough to know
the state of its machine: the outcomes of a run, applied one after the other to the state at the
start, lead to the state at the end. An outcome that reports a failure also says why, and there is
a failure only if a collaborator failed or the peer did not accept.

## Main definitions

- `Roaming.Arrival`, `Session.outcomes` — the events of a run, and what the caller learns
- `Roaming.Outcome.observe` — the state that an outcome tells of
- `Roaming.FailsWith` — why an event that the table admits fails

## Main statements

- `Session.observe_outcome_dispatch` — one outcome tells the next state of the table
- `Session.observe_outcomes` — the outcomes of a run tell the state at its end
- `Session.observes_of_run` — what the outcome of each event of a run means
-/

namespace SessionControl

/-- A collaborator answers a call with an error. -/
inductive Peers.Fails (peers : Peers) : Call → SessionError → Prop
  | userPlane {r : UserPlaneRequest} {imsi : String} {machine : Roaming.Machine}
      {error : SessionError} : peers.userPlane r = .error error →
      Peers.Fails peers (.userPlane r imsi machine) error
  | commit {id : UInt64} {m : Roaming.Message} {error : SessionError} :
      peers.commit id m = .error error → Peers.Fails peers (.commit id m) error

theorem Peers.Fails.isSignalling {peers : Peers} {c : Call} {error : SessionError}
    (h : peers.Fails c error) : c.isSignalling := by
  cases h <;> rfl

namespace Roaming

variable {state : State} {e : Event} {held : Option Transaction} {peers : Peers}
  {error : SessionError}

/-! ## Why an event fails -/

/-- The event is one that the state allows. -/
def Action.isAdmitted : Action → Bool
  | .violation | .timeout | .ignore => false
  | .createSession | .modifyBearer _ | .deleteSession | .resourceCommand _ | .resourceFailure _
  | .response _ _ => true

/-- Why an admitted event fails: one of the calls made for it does, or it is the response on the
open transaction and does not carry the accepted cause. -/
inductive FailsWith (peers : Peers) (held : Option Transaction) (calls : List Call) :
    Event → SessionError → Prop
  | call {e : Event} {c : Call} {error : SessionError} : c ∈ calls → peers.Fails c error →
      FailsWith peers held calls e error
  | rejected {t : Transaction} {cause : UInt8} : held = some t → cause ≠ Cause.accepted →
      FailsWith peers held calls (.message t.id (t.procedure.response (some cause)))
        (.rejected t.procedure cause)
  | noCause {t : Transaction} : held = some t →
      FailsWith peers held calls (.message t.id (t.procedure.response none))
        (.noCause t.procedure)

/-- A message that is served fails exactly if one of its calls does, and with that error. -/
theorem Served.eq_error_iff {imsi : String} {machine : Machine} {id : UInt64} {m : Message}
    {request : Option UserPlaneRequest} {calls : List Call} {result : Except SessionError Unit}
    (h : Served peers imsi machine id m request calls result) :
    result = .error error ↔ ∃ c ∈ calls, peers.Fails c error := by
  cases h with
  | refused hr =>
    constructor
    · intro herror
      exact ⟨_, List.mem_singleton_self _, .userPlane (herror ▸ hr)⟩
    · rintro ⟨c, hc, hfails⟩
      rw [List.mem_singleton.mp hc] at hfails
      cases hfails with
      | userPlane hr' => rw [← hr, hr']
  | carriedOut hr =>
    constructor
    · intro herror
      exact ⟨.commit id m, by simp, .commit herror⟩
    · rintro ⟨c, hc, hfails⟩
      cases hfails with
      | userPlane hr' =>
        obtain ⟨rfl, -⟩ : _ ∧ _ := by simpa using hc
        rw [hr] at hr'
        exact absurd hr' (by simp)
      | commit hcommit =>
        obtain ⟨rfl, rfl⟩ : _ ∧ _ := by simpa using hc
        exact hcommit
  | nothingAsked =>
    constructor
    · intro herror
      exact ⟨_, List.mem_singleton_self _, .commit herror⟩
    · rintro ⟨c, hc, hfails⟩
      rw [List.mem_singleton.mp hc] at hfails
      cases hfails with
      | commit hcommit => exact hcommit

/-- A response is accepted only with the accepted cause. -/
theorem checkResponse_eq_error_iff {imsi : String} {p : Procedure} {cause : Option UInt8} :
    (checkResponse imsi p cause).run.value = .error error ↔
      (∃ n, cause = some n ∧ n ≠ Cause.accepted ∧ error = .rejected p n) ∨
        cause = none ∧ error = .noCause p := by
  cases cause with
  | none =>
    have hvalue : (checkResponse imsi p none).run.value = .error (.noCause p) := rfl
    simp [hvalue, eq_comm]
  | some n =>
    by_cases hn : n = Cause.accepted
    · have hvalue : (checkResponse imsi p (some n)).run.value = .ok () := by
        rw [checkResponse, if_pos hn]
        rfl
      rw [hvalue]
      simp [hn]
    · have hvalue : (checkResponse imsi p (some n)).run.value = .error (.rejected p n) := by
        rw [checkResponse, if_neg hn]
        rfl
      simp [hvalue, hn, eq_comm]

/-- An action fails exactly if one of its calls does, or if it is the check of a response and that
fails. -/
theorem Action.perform_eq_error_iff {action : Action} {s : Session} {id : UInt64} :
    (action.perform peers s id).value = .error error ↔
      (∃ c ∈ (action.perform peers s id).calls, peers.Fails c error) ∨
        ∃ p cause, action = .response p cause ∧
          (checkResponse s.imsi p cause).run.value = .error error := by
  cases action with
  | createSession => simpa [perform] using (served_handleRequest peers s id _ _).eq_error_iff
  | modifyBearer hasBearerContexts =>
    simpa [perform] using (served_handleRequest peers s id _ _).eq_error_iff
  | deleteSession => simpa [perform] using (served_handleRequest peers s id _ _).eq_error_iff
  | resourceCommand linkedBearer =>
    simpa [perform] using (served_handleCommand peers s id _).eq_error_iff
  | response p cause => simp [perform, run_checkResponse_calls]
  | resourceFailure _ | violation | timeout | ignore => simp [perform]

/-! ## What the table admits -/

/-- While a response is awaited only that response is admitted, and anything else is fatal. -/
theorem whenWaiting_cases (p : Procedure) (held : Option Transaction) (e : Event) :
    (∃ t cause, held = some t ∧ t.procedure = p ∧ e = .message t.id (p.response cause) ∧
      whenWaiting p held e = (afterResponse p, .response p cause)) ∨
    whenWaiting p held e = (.exception, .violation) ∨
      whenWaiting p held e = (.exception, .timeout) := by
  rcases e with ⟨id, m⟩ | id
  · unfold whenWaiting
    dsimp only
    split
    next cause hopen hanswers =>
      cases held with
      | none => exact absurd hopen Bool.false_ne_true
      | some t =>
        obtain ⟨rfl, hp⟩ : t.id = id ∧ t.procedure = p := by simpa [isOpen] using hopen
        rw [Procedure.answeredBy?_eq_some_iff] at hanswers
        exact .inl ⟨t, cause, rfl, hp, by rw [hanswers], rfl⟩
    · exact .inr (.inl rfl)
  · exact .inr (.inr rfl)

/-- A response is checked only if it answers the open transaction. -/
theorem exists_transaction_of_response {p : Procedure} {cause : Option UInt8}
    (h : (transition state e held).2 = .response p cause) :
    ∃ t, held = some t ∧ t.procedure = p ∧ e = .message t.id (p.response cause) := by
  cases state with
  | initial | operational =>
    rcases e with ⟨id, m⟩ | id
    · cases m <;> simp [transition, whenOperational] at h
    · simp [transition, whenOperational] at h
  | waiting q =>
    rw [transition] at h
    rcases whenWaiting_cases q held e with ⟨t, cause', ht, hp, he, hwaiting⟩ | hwaiting | hwaiting
    · rw [hwaiting] at h
      cases h
      exact ⟨t, ht, hp, he⟩
    · simp [hwaiting] at h
    · simp [hwaiting] at h
  | final | exception => simp [transition] at h

/-- An admitted response on the open transaction is checked. -/
theorem transition_snd_of_response {t : Transaction} {cause : Option UInt8}
    (h : (transition state (.message t.id (t.procedure.response cause)) (some t)).2.isAdmitted) :
    (transition state (.message t.id (t.procedure.response cause)) (some t)).2 =
      .response t.procedure cause := by
  cases state with
  | initial | operational =>
    cases hp : t.procedure <;>
      simp [hp, transition, whenOperational, Procedure.response, Action.isAdmitted] at h
  | waiting q =>
    rw [transition] at h ⊢
    rcases whenWaiting_cases q (some t) (.message t.id (t.procedure.response cause)) with
      ⟨t', cause', ht, hp, he, hwaiting⟩ | hwaiting | hwaiting
    · cases ht
      cases hp
      -- A procedure's response carries one cause only.
      have hcause : t.procedure.answeredBy? (t.procedure.response cause) = some cause' :=
        Procedure.answeredBy?_eq_some_iff.mpr (by injection he)
      rw [Procedure.answeredBy?_eq_some_iff.mpr rfl] at hcause
      rw [hwaiting, Option.some.inj hcause]
    · simp [hwaiting, Action.isAdmitted] at h
    · simp [hwaiting, Action.isAdmitted] at h
  | final | exception => simp [transition, Action.isAdmitted] at h

/-- What is done for an admitted event fails exactly if there is a reason for it. -/
theorem perform_eq_error_iff_failsWith {s : Session} {calls : List Call}
    (hadmitted : (transition state e held).2.isAdmitted)
    (hcalls : (∃ c ∈ calls, peers.Fails c error) ↔
      ∃ c ∈ ((transition state e held).2.perform peers s e.transaction).calls,
        peers.Fails c error) :
    ((transition state e held).2.perform peers s e.transaction).value = .error error ↔
      FailsWith peers held calls e error := by
  rw [Action.perform_eq_error_iff, ← hcalls]
  constructor
  · rintro (⟨c, hc, hfails⟩ | ⟨p, cause, haction, herror⟩)
    · exact .call hc hfails
    · obtain ⟨t, rfl, rfl, rfl⟩ := exists_transaction_of_response haction
      rw [checkResponse_eq_error_iff] at herror
      obtain ⟨n, rfl, hn, rfl⟩ | ⟨rfl, rfl⟩ := herror
      · exact .rejected rfl hn
      · exact .noCause rfl
  · intro h
    cases h with
    | call hc hfails => exact .inl ⟨_, hc, hfails⟩
    | @rejected t cause ht hcause =>
      subst ht
      refine .inr ⟨_, _, transition_snd_of_response hadmitted, ?_⟩
      exact checkResponse_eq_error_iff.mpr (.inl ⟨cause, rfl, hcause, rfl⟩)
    | noCause ht =>
      subst ht
      refine .inr ⟨_, _, transition_snd_of_response hadmitted, ?_⟩
      exact checkResponse_eq_error_iff.mpr (.inr ⟨rfl, rfl⟩)

/-- An event that is not valid or overdue leads to the exception state. -/
theorem transition_fst_of_fatal
    (h : (transition state e held).2 = .violation ∨ (transition state e held).2 = .timeout) :
    (transition state e held).1 = .exception := by
  cases state with
  | initial | operational =>
    rcases e with ⟨id, m⟩ | id
    · cases m <;> simp [transition, whenOperational] at h ⊢
    · rfl
  | waiting p =>
    rw [transition] at h ⊢
    rcases whenWaiting_cases p held e with ⟨t, cause, -, -, -, hwaiting⟩ | hwaiting | hwaiting
    · simp [hwaiting] at h
    · rw [hwaiting]
    · rw [hwaiting]
  | final | exception => simp [transition] at h

/-- Exactly the terminal states ignore an event. -/
theorem transition_snd_eq_ignore_iff :
    (transition state e held).2 = .ignore ↔ state = .final ∨ state = .exception := by
  cases state with
  | initial | operational =>
    rcases e with ⟨id, m⟩ | id
    · cases m <;> simp [transition, whenOperational]
    · simp [transition, whenOperational]
  | waiting p =>
    rw [transition]
    rcases whenWaiting_cases p held e with ⟨t, cause, -, -, -, hwaiting⟩ | hwaiting | hwaiting <;>
      simp [hwaiting]
  | final | exception => simp [transition]

/-! ## Outcomes -/

/-- The state that is known after an outcome, if the one before it was. -/
def Outcome.observe (known : State) : Outcome → State
  | .handled | .ignored => known
  | .entered state => state
  | .failed next _ => next
  | .violation | .timeout => .exception

theorem Outcome.observe_ofResult (before next : State) (result : Except SessionError Unit) :
    (Outcome.ofResult before next result).observe before = next := by
  cases result with
  | error error => rfl
  | ok u =>
    by_cases h : next = before
    · simp [ofResult, observe, h]
    · simp [ofResult, observe, h]

/-- An event fails exactly if it is admitted and what is done for it fails. -/
theorem Action.outcome_eq_failed_iff {action : Action} {before next known : State}
    {result : Except SessionError Unit} :
    action.outcome before next result = .failed known error ↔
      known = next ∧ action.isAdmitted ∧ result = .error error := by
  have hresult : Outcome.ofResult before next result = .failed known error ↔
      known = next ∧ result = .error error := by
    cases result with
    | error error' => simp [Outcome.ofResult, eq_comm]
    | ok u =>
      by_cases h : next = before <;> simp [Outcome.ofResult, h]
  cases action with
  | violation | timeout | ignore => simp [outcome, isAdmitted]
  | createSession | modifyBearer _ | deleteSession | resourceCommand _ | resourceFailure _
  | response _ _ => simpa [outcome, isAdmitted] using hresult

theorem Action.outcome_eq_ignored_iff {action : Action} {before next : State}
    {result : Except SessionError Unit} :
    action.outcome before next result = .ignored ↔ action = .ignore := by
  have hresult : Outcome.ofResult before next result ≠ .ignored := by
    cases result with
    | error error => simp [Outcome.ofResult]
    | ok u => by_cases h : next = before <;> simp [Outcome.ofResult, h]
  cases action with
  | violation | timeout | ignore => simp [outcome]
  | createSession | modifyBearer _ | deleteSession | resourceCommand _ | resourceFailure _
  | response _ _ => simpa [outcome] using hresult

/-- An event of a run, with the setting of the timer and the answers of the collaborators at the
time. -/
structure Arrival where
  timer : ResponseTimer
  peers : Peers
  event : Event

end Roaming

namespace Session

open Roaming (Action Arrival Event FailsWith Machine Outcome ResponseTimer State)

variable {s : Session} {timer : ResponseTimer} {peers : Peers} {e : Event}

/-! ## One event -/

/-- The outcome tells the next state of the table. -/
theorem observe_outcome_dispatch (s : Session) (timer : ResponseTimer) (peers : Peers)
    (e : Event) :
    (s.dispatch timer peers e).value.1.observe s.begun.state =
      (Roaming.transition s.state e s.machine.transaction).1 := by
  rw [outcome_dispatch]
  cases haction : (Roaming.transition s.state e s.machine.transaction).2 with
  | violation => exact (Roaming.transition_fst_of_fatal (.inl haction)).symm
  | timeout => exact (Roaming.transition_fst_of_fatal (.inr haction)).symm
  | ignore =>
    rw [← transition_begun] at haction ⊢
    exact (Roaming.transition_fst_of_ignore haction).symm
  | createSession | modifyBearer _ | deleteSession | resourceCommand _ | resourceFailure _
  | response _ _ => simp only [Action.outcome, Outcome.observe_ofResult]

/-- After an event a session has begun. -/
theorem begun_dispatch (s : Session) (timer : ResponseTimer) (peers : Peers) (e : Event) :
    (s.dispatch timer peers e).value.2.begun = (s.dispatch timer peers e).value.2 := by
  rw [session_dispatch, begun]
  exact if_neg (Machine.state_step_ne_initial timer s.machine e)

/-- The calls of the timer do not fail, so a call that fails is one of the action. -/
theorem exists_fails_dispatch_iff {error : SessionError} :
    (∃ c ∈ (s.dispatch timer peers e).calls, peers.Fails c error) ↔
      ∃ c ∈ ((Roaming.transition s.state e s.machine.transaction).2.perform peers s.begun
        e.transaction).calls, peers.Fails c error := by
  rw [calls_dispatch]
  constructor
  · rintro ⟨c, hc, hfails⟩
    refine ⟨c, (List.mem_append.mp hc).resolve_right fun htimer => ?_, hfails⟩
    have hsilent := Action.not_isSignalling_of_timerCalls _ _ _ _ c htimer
    rw [hfails.isSignalling] at hsilent
    exact Bool.false_ne_true hsilent.symm
  · rintro ⟨c, hc, hfails⟩
    exact ⟨c, List.mem_append_left _ hc, hfails⟩

/-- An event fails exactly if it is admitted and there is a reason for it to fail. -/
theorem outcome_dispatch_eq_failed_iff {known : State} {error : SessionError} :
    (s.dispatch timer peers e).value.1 = .failed known error ↔
      known = (Roaming.transition s.state e s.machine.transaction).1 ∧
        (Roaming.transition s.state e s.machine.transaction).2.isAdmitted ∧
        FailsWith peers s.machine.transaction (s.dispatch timer peers e).calls e error := by
  rw [outcome_dispatch, Action.outcome_eq_failed_iff]
  refine and_congr_right fun _ => and_congr_right fun hadmitted => ?_
  exact Roaming.perform_eq_error_iff_failsWith hadmitted exists_fails_dispatch_iff

/-- Exactly the terminal states ignore an event. -/
theorem outcome_dispatch_eq_ignored_iff :
    (s.dispatch timer peers e).value.1 = .ignored ↔ s.state = .final ∨ s.state = .exception := by
  rw [outcome_dispatch, Action.outcome_eq_ignored_iff, Roaming.transition_snd_eq_ignore_iff]

/-- An event that is ignored does nothing at all. -/
theorem dispatch_of_terminal (h : s.state = .final ∨ s.state = .exception) :
    (s.dispatch timer peers e).value.2 = s ∧ (s.dispatch timer peers e).calls = [] := by
  have hignore : (Roaming.transition s.state e s.machine.transaction).2 = .ignore :=
    Roaming.transition_snd_eq_ignore_iff.mpr h
  constructor
  · have hstate := Roaming.transition_fst_of_ignore hignore
    simp only [state] at hignore hstate
    rw [session_dispatch, Machine.step, hignore, hstate]
    rfl
  · rw [calls_dispatch, hignore]
    rfl

/-! ## Runs -/

/-- A session after a run of events. -/
def receive (s : Session) (arrivals : List Arrival) : Session :=
  arrivals.foldl (fun s a => (s.dispatch a.timer a.peers a.event).value.2) s

/-- What the caller learns about the events of a run. -/
def outcomes : Session → List Arrival → List Outcome
  | _, [] => []
  | s, a :: arrivals =>
    (s.dispatch a.timer a.peers a.event).value.1 ::
      outcomes (s.dispatch a.timer a.peers a.event).value.2 arrivals

theorem receive_concat (s : Session) (before : List Arrival) (a : Arrival) :
    s.receive (before ++ [a]) =
      ((s.receive before).dispatch a.timer a.peers a.event).value.2 := by
  rw [receive, List.foldl_append]
  rfl

/-- The machine after a run is that of the table, whatever the collaborators answer. -/
theorem machine_receive (s : Session) (arrivals : List Arrival) :
    (s.receive arrivals).machine =
      arrivals.foldl (fun m a => m.step a.timer a.event) s.machine := by
  induction arrivals generalizing s with
  | nil => rfl
  | cons a arrivals ih =>
    have hstep : (s.dispatch a.timer a.peers a.event).value.2.machine =
        s.machine.step a.timer a.event := by rw [session_dispatch]
    rw [List.foldl_cons, ← hstep]
    exact ih _

/-- The outcomes of a run tell the state at its end. -/
theorem observe_outcomes (s : Session) (arrivals : List Arrival) :
    (s.outcomes arrivals).foldl Outcome.observe s.begun.state =
      (s.receive arrivals).begun.state := by
  induction arrivals generalizing s with
  | nil => rfl
  | cons a arrivals ih =>
    have hobserve := s.observe_outcome_dispatch a.timer a.peers a.event
    have hstate : (s.dispatch a.timer a.peers a.event).value.2.begun.state =
        (Roaming.transition s.state a.event s.machine.transaction).1 := by
      rw [begun_dispatch, session_dispatch]
      rfl
    rw [outcomes, List.foldl_cons, hobserve, ← hstate]
    exact ih _

/-- The outcomes of a run from any session, whatever its state and open transaction, tell the state
of its machine after every event, which is the one that the table gives for the events alone. An
event fails exactly if the table admits it and either a collaborator fails or the peer's response
on the open transaction does not carry the accepted cause; the error says which. An event is ignored
exactly in the two terminal states, and then nothing changes and nothing is called. -/
theorem observes_of_run (s : Session) (before : List Arrival) (a : Arrival) :
    let now := s.receive before
    let step := now.dispatch a.timer a.peers a.event
    let given := Roaming.transition now.state a.event now.machine.transaction
    s.receive (before ++ [a]) = step.value.2 ∧
    (s.outcomes (before ++ [a])).foldl Outcome.observe s.begun.state = step.value.2.state ∧
    step.value.2.state = given.1 ∧
    step.value.2.machine =
      (before ++ [a]).foldl (fun m a => m.step a.timer a.event) s.machine ∧
    (∀ next error, step.value.1 = .failed next error ↔
      next = given.1 ∧ given.2.isAdmitted ∧
        FailsWith a.peers now.machine.transaction step.calls a.event error) ∧
    (step.value.1 = .ignored ↔ now.state = .final ∨ now.state = .exception) ∧
    (now.state = .final ∨ now.state = .exception → step.value.2 = now ∧ step.calls = []) := by
  intro now step given
  have hrun : s.receive (before ++ [a]) = step.value.2 := receive_concat s before a
  refine ⟨hrun, ?_, ?_, ?_, ?_, ?_, ?_⟩
  · have hbegun : step.value.2.begun = step.value.2 := begun_dispatch now a.timer a.peers a.event
    rw [observe_outcomes, hrun, hbegun]
  · simp only [step, session_dispatch]
    rfl
  · rw [← hrun, machine_receive]
  · intro next error
    exact outcome_dispatch_eq_failed_iff
  · exact outcome_dispatch_eq_ignored_iff
  · exact dispatch_of_terminal

-- The user plane fails and the state is entered all the same, then the peer gives no cause.
example :
    let timer := ResponseTimer.ofSeconds 3
    (Session.new 1 1 "001010000000001" (some "internet")).outcomes
      [{ timer, peers := .failing (some "no answer") none,
         event := .message 7 .createSessionRequest },
       { timer, peers := .working, event := .message 7 (.createSessionResponse none) }] =
    [.failed (.waiting .createSession) (.userPlane .establish "no answer"),
      .failed .operational (.noCause .createSession)] := by
  rfl

end Session

end SessionControl
