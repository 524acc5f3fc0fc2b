import Mathlib.Data.List.Induction
import SessionControl.Proofs.Roaming.Step

/-!
# The language of the roaming machine

Which sequences of events a session survives. They consist of exchanges: a request and right
after it the response on the same transaction, or a single bearer resource message. A sequence
may end with a request that is not answered yet, and after the response to a request to delete
the session anything may follow. Every other sequence ends in the exception state.

## Main definitions

- `Roaming.Exchanges` — sequences of complete exchanges
- `Roaming.Pending`, `Roaming.Finished` — the two other ways to end without an exception

## Main statements

- `Roaming.Reading.after_eq`, `Roaming.reading_or_exception` — the form of a sequence determines
  the machine, and a sequence without a form leads to an exception
- `Session.state_runEvents_iff` — the state of a session after a sequence of events
-/

namespace SessionControl

namespace Roaming

/-- The procedure that a message requests. -/
def Message.requests? : Message → Option Procedure
  | .createSessionRequest => some .createSession
  | .modifyBearerRequest _ => some .modifyBearer
  | .deleteSessionRequest => some .deleteSession
  | .createSessionResponse _ | .modifyBearerResponse _ | .deleteSessionResponse _
  | .bearerResourceCommand _ | .bearerResourceFailureIndication _ => none

/-- A complete exchange that leaves the session in place. The cause of a response does not
matter. -/
inductive Exchange : List Event → Prop
  | create (id : UInt64) (cause : Option UInt8) :
      Exchange [.message id .createSessionRequest, .message id (.createSessionResponse cause)]
  | modify (id : UInt64) (hasBearerContexts : Bool) (cause : Option UInt8) :
      Exchange [.message id (.modifyBearerRequest hasBearerContexts),
        .message id (.modifyBearerResponse cause)]
  | command (id : UInt64) (linkedBearer : Option UInt8) :
      Exchange [.message id (.bearerResourceCommand linkedBearer)]
  | failure (id : UInt64) (cause : Option UInt8) :
      Exchange [.message id (.bearerResourceFailureIndication cause)]

/-- Complete exchanges, one after another. -/
inductive Exchanges : List Event → Prop
  | nil : Exchanges []
  | snoc {es ex : List Event} : Exchanges es → Exchange ex → Exchanges (es ++ ex)

/-- Complete exchanges, and then the request of a procedure. -/
inductive Pending (p : Procedure) : List Event → Prop
  | request {es : List Event} (id : UInt64) {m : Message} :
      Exchanges es → m.requests? = some p → Pending p (es ++ [.message id m])

/-- Complete exchanges, then the request to delete the session and its response, and then
anything. -/
inductive Finished : List Event → Prop
  | delete {es : List Event} (id : UInt64) (cause : Option UInt8) (rest : List Event) :
      Exchanges es →
      Finished (es ++ [.message id .deleteSessionRequest,
        .message id (.deleteSessionResponse cause)] ++ rest)

/-- A machine in use that awaits nothing. -/
def Machine.idle : Machine := { state := .operational }

/-- The machine after a sequence of events, from an idle one on. -/
def Machine.after (timer : ResponseTimer) (es : List Event) : Machine :=
  es.foldl (Machine.step timer) .idle

/-- The machine that a sequence of events leads to unless it leads to an exception, read off the
form of the sequence. -/
inductive Reading (timer : ResponseTimer) : List Event → Machine → Prop
  | idle {es : List Event} : Exchanges es → Reading timer es .idle
  | awaiting {es : List Event} {p : Procedure} (id : UInt64) {m : Message} :
      Exchanges es → m.requests? = some p →
      Reading timer (es ++ [.message id m])
        { state := .waiting p
          transaction := some { id, procedure := p, timeout := timer.seconds } }
  | final {es : List Event} : Finished es → Reading timer es { state := .final }

variable {timer : ResponseTimer} {es : List Event}

@[simp]
theorem Machine.after_append (timer : ResponseTimer) (es es' : List Event) :
    Machine.after timer (es ++ es') = es'.foldl (Machine.step timer) (Machine.after timer es) := by
  simp [after]

/-! ## From the form of a sequence to the machine -/

theorem Machine.step_request {p : Procedure} {m : Message} (h : m.requests? = some p)
    (id : UInt64) :
    Machine.idle.step timer (.message id m) =
      { state := .waiting p
        transaction := some { id, procedure := p, timeout := timer.seconds } } := by
  cases m <;> simp [Message.requests?] at h <;> subst h <;> rfl

theorem Machine.step_response (timer : ResponseTimer) (id timeout : UInt64) (p : Procedure)
    (cause : Option UInt8) :
    Machine.step timer
      { state := .waiting p, transaction := some { id, procedure := p, timeout } }
      (.message id (p.response cause)) = { state := afterResponse p } := by
  have hopen : isOpen (some { id, procedure := p, timeout }) id p = true := by simp [isOpen]
  have hanswer : p.answeredBy? (p.response cause) = some cause :=
    Procedure.answeredBy?_eq_some_iff.2 rfl
  simp [step, transition, whenWaiting, hopen, hanswer, Action.openAfter]

theorem Machine.foldl_procedure (timer : ResponseTimer) (id : UInt64) {p : Procedure}
    {m : Message} (h : m.requests? = some p) (cause : Option UInt8) :
    [Event.message id m, .message id (p.response cause)].foldl (Machine.step timer) .idle =
      { state := afterResponse p } := by
  rw [List.foldl_cons, step_request h]
  exact step_response timer id timer.seconds p cause

theorem Machine.foldl_exchange (timer : ResponseTimer) {ex : List Event} (h : Exchange ex) :
    ex.foldl (Machine.step timer) .idle = .idle := by
  cases h with
  | create id cause => exact foldl_procedure timer id (p := .createSession) rfl cause
  | modify id _ cause => exact foldl_procedure timer id (p := .modifyBearer) rfl cause
  | command id linkedBearer => rfl
  | failure id cause => rfl

theorem Machine.foldl_step_of_isTerminal (timer : ResponseTimer) {m : Machine}
    (h : m.state.isTerminal) (es : List Event) : es.foldl (Machine.step timer) m = m := by
  induction es with
  | nil => rfl
  | cons e es ih =>
    have hstep : m.step timer e = m := by
      rcases m with ⟨state, held⟩
      cases state with
      | final | exception => rfl
      | initial | operational | waiting _ => simp [State.isTerminal] at h
    rw [List.foldl_cons, hstep, ih]

theorem Exchanges.after_eq (h : Exchanges es) : Machine.after timer es = .idle := by
  induction h with
  | nil => rfl
  | snoc _ hex ih => rw [Machine.after_append, ih, Machine.foldl_exchange timer hex]

theorem Finished.after_eq (h : Finished es) : Machine.after timer es = { state := .final } := by
  obtain ⟨id, cause, rest, hes⟩ := h
  have hdelete : [Event.message id .deleteSessionRequest,
      .message id (.deleteSessionResponse cause)].foldl (Machine.step timer) .idle =
      { state := .final } :=
    Machine.foldl_procedure timer id (p := .deleteSession) rfl cause
  rw [Machine.after_append, Machine.after_append, hes.after_eq, hdelete]
  exact Machine.foldl_step_of_isTerminal timer rfl rest

/-- The form of a sequence determines the machine. -/
theorem Reading.after_eq {m : Machine} (h : Reading timer es m) : Machine.after timer es = m := by
  cases h with
  | idle hes => exact hes.after_eq
  | awaiting id hes hm =>
    rw [Machine.after_append, hes.after_eq]
    exact Machine.step_request hm id
  | final hes => exact hes.after_eq

/-! ## From the machine to the form of a sequence -/

/-- One more event extends the form of a sequence, or leads to an exception. -/
theorem Reading.step {m : Machine} (h : Reading timer es m) (e : Event) :
    Reading timer (es ++ [e]) (m.step timer e) ∨ (m.step timer e).state = .exception := by
  cases h with
  | idle hes =>
    rcases e with ⟨id, m⟩ | id
    · cases m with
      | createSessionRequest => exact .inl (.awaiting id hes rfl)
      | modifyBearerRequest hasBearerContexts => exact .inl (.awaiting id hes rfl)
      | deleteSessionRequest => exact .inl (.awaiting id hes rfl)
      | bearerResourceCommand linkedBearer =>
        exact .inl (.idle (hes.snoc (.command id linkedBearer)))
      | bearerResourceFailureIndication cause => exact .inl (.idle (hes.snoc (.failure id cause)))
      | createSessionResponse _ => exact .inr rfl
      | modifyBearerResponse _ => exact .inr rfl
      | deleteSessionResponse _ => exact .inr rfl
    · exact .inr rfl
  | @awaiting es p id m hes hm =>
    -- Only the response on the open transaction completes the exchange.
    rcases e with ⟨id', m'⟩ | id'
    · by_cases hmatch : id' = id ∧ ∃ cause, m' = p.response cause
      · obtain ⟨rfl, cause, rfl⟩ := hmatch
        refine .inl ?_
        rw [Machine.step_response, List.append_assoc]
        -- The last request and its response are an exchange, unless they delete the session.
        cases m <;> simp [Message.requests?] at hm <;> subst hm
        · exact .idle (hes.snoc (.create id' cause))
        · exact .idle (hes.snoc (.modify id' _ cause))
        · have hdelete := Finished.delete id' cause [] hes
          rw [List.append_nil] at hdelete
          exact .final hdelete
      · refine .inr ?_
        simp only [Machine.step, transition, whenWaiting]
        split
        · next hopen hanswer =>
          have hid : id' = id := by
            simp only [isOpen, beq_self_eq_true, Bool.and_true, beq_iff_eq] at hopen
            exact hopen.symm
          exact absurd ⟨hid, _, Procedure.answeredBy?_eq_some_iff.1 hanswer⟩ hmatch
        · rfl
    · exact .inr rfl
  | final hes =>
    obtain ⟨id, cause, rest, hes⟩ := hes
    refine .inl ?_
    rw [List.append_assoc]
    exact .final (.delete id cause (rest ++ [e]) hes)

/-- A sequence of events leads to an exception unless it has one of the forms. -/
theorem reading_or_exception (timer : ResponseTimer) (es : List Event) :
    Reading timer es (Machine.after timer es) ∨ (Machine.after timer es).state = .exception := by
  -- The last event decides, so the induction takes events off the end.
  induction es using List.reverseRecOn with
  | nil => exact .inl (.idle .nil)
  | append_singleton es e ih =>
    rw [Machine.after_append, List.foldl_cons, List.foldl_nil]
    rcases ih with h | h
    · exact h.step e
    · right
      have hkeep := Machine.foldl_step_of_isTerminal timer (by rw [h]; rfl) [e]
      rw [List.foldl_cons, List.foldl_nil] at hkeep
      rw [hkeep, h]

/-! ## The state, by the form of a sequence -/

theorem exists_reading_iff (timer : ResponseTimer) (es : List Event) :
    (∃ m, Reading timer es m) ↔ (Machine.after timer es).state ≠ .exception := by
  constructor
  · rintro ⟨m, h⟩
    rw [h.after_eq]
    cases h <;> simp [Machine.idle]
  · intro h
    exact ⟨_, (reading_or_exception timer es).resolve_right h⟩

theorem state_after_ne_exception_iff (timer : ResponseTimer) (es : List Event) :
    (Machine.after timer es).state ≠ .exception ↔
      Exchanges es ∨ (∃ p, Pending p es) ∨ Finished es := by
  rw [← exists_reading_iff]
  constructor
  · rintro ⟨m, h⟩
    cases h with
    | idle hes => exact .inl hes
    | awaiting id hes hm => exact .inr (.inl ⟨_, .request id hes hm⟩)
    | final hes => exact .inr (.inr hes)
  · rintro (hes | ⟨p, id, hes, hm⟩ | hes)
    · exact ⟨_, .idle hes⟩
    · exact ⟨_, .awaiting id hes hm⟩
    · exact ⟨_, .final hes⟩

/-- The sequences that lead from an idle machine to a state other than an exception. -/
def State.Reads : State → List Event → Prop
  | .operational, es => Exchanges es
  | .waiting p, es => Pending p es
  | .final, es => Finished es
  | .initial, _ | .exception, _ => False

theorem Reading.reads {m : Machine} (h : Reading timer es m) : m.state.Reads es := by
  cases h with
  | idle hes => exact hes
  | awaiting id hes hm => exact .request id hes hm
  | final hes => exact hes

/-- A state other than an exception is reached by the sequences of its form. -/
theorem state_after_eq_iff (timer : ResponseTimer) (es : List Event) (state : State)
    (hne : state ≠ .exception) : (Machine.after timer es).state = state ↔ state.Reads es := by
  constructor
  · rintro rfl
    obtain ⟨m, h⟩ := (exists_reading_iff timer es).2 hne
    rw [h.after_eq]
    exact h.reads
  · intro h
    cases state with
    | operational => rw [h.after_eq]; rfl
    | waiting p =>
      obtain ⟨id, hes, hm⟩ := h
      rw [(Reading.awaiting id hes hm).after_eq]
    | final => rw [h.after_eq]
    | initial | exception => exact h.elim

end Roaming

namespace Session

open Roaming (Event Exchanges Finished Machine Pending Reading ResponseTimer State)

variable {timer : ResponseTimer} {s : Session} {es : List (Peers × Event)}

/-- Once there is an event, a fresh session runs like an idle machine, whether or not it has
begun. -/
theorem state_runEvents_of_fresh (timer : ResponseTimer) (es : List (Peers × Event))
    (ht : s.machine.transaction = none) (hs : s.state = .initial ∨ s.state = .operational)
    (hes : es = [] → s.state = .operational) :
    (s.runEvents timer es).state = (Machine.after timer (es.map Prod.snd)).state := by
  rw [runEvents_eq]
  change ((es.map Prod.snd).foldl (Machine.step timer) s.machine).state = _
  rcases hm : s.machine with ⟨before, held⟩
  obtain rfl : held = none := by rw [hm] at ht; exact ht
  rw [show s.state = before by rw [state, hm]] at hs hes
  rcases hs with rfl | rfl
  · cases es with
    | nil => simp at hes
    | cons x es => rfl
  · rfl

/-- The state of a fresh session after a sequence of events, whatever the causes, the timer and
the answers of the collaborators. Complete exchanges leave it operational, or as it was if there
are none; a request after them makes it await the response; a deletion after them ends it for
good. Every other sequence ends in an exception. -/
theorem state_runEvents_iff (timer : ResponseTimer) (es : List (Peers × Event))
    (ht : s.machine.transaction = none) (hs : s.state = .initial ∨ s.state = .operational) :
    ((s.runEvents timer es).state = .initial ↔ es = [] ∧ s.state = .initial) ∧
    ((s.runEvents timer es).state = .operational ↔
      Exchanges (es.map Prod.snd) ∧ (es = [] → s.state = .operational)) ∧
    (∀ p, (s.runEvents timer es).state = .waiting p ↔ Pending p (es.map Prod.snd)) ∧
    ((s.runEvents timer es).state = .final ↔ Finished (es.map Prod.snd)) ∧
    ((s.runEvents timer es).state ≠ .exception ↔
      Exchanges (es.map Prod.snd) ∨ (∃ p, Pending p (es.map Prod.snd)) ∨
        Finished (es.map Prod.snd)) := by
  have hforms := Roaming.state_after_ne_exception_iff timer (es.map Prod.snd)
  have hreads := Roaming.state_after_eq_iff timer (es.map Prod.snd)
  have hinitial := hreads .initial (by simp)
  have hoperational := hreads .operational (by simp)
  have hwaiting := fun p => hreads (.waiting p) (by simp)
  have hfinal := hreads .final (by simp)
  simp only [State.Reads, iff_false] at hinitial hoperational hwaiting hfinal
  by_cases hnone : es = [] ∧ s.state = .initial
  · -- Nothing has happened: no exchange is pending or finished, yet the session has not begun.
    obtain ⟨rfl, hs⟩ := hnone
    have hidle : (Machine.after timer []).state = .operational := rfl
    rw [List.map_nil, hidle] at hforms hoperational hwaiting hfinal
    have hsame : (s.runEvents timer []).state = .initial := hs
    rw [hsame, List.map_nil]
    refine ⟨by simp [hs], by simp [hs], fun p => ?_, ?_, ?_⟩
    · rw [← hwaiting p]; simp
    · rw [← hfinal]; simp
    · rw [← hforms]; simp
  · have hes : es = [] → s.state = .operational := fun he => hs.resolve_left fun h => hnone ⟨he, h⟩
    rw [state_runEvents_of_fresh timer es ht hs hes]
    refine ⟨by simp [hnone, hinitial], ?_, hwaiting, hfinal, hforms⟩
    exact hoperational.trans (and_iff_left hes).symm

/-- A request on another transaction than the open one ends in an exception, so the events below
are not of one of the forms; without the last one they are. -/
theorem state_runEvents_iff_overlap :
    let s := Session.new 1 1 "001010000000001" (some "internet")
    let create : Peers × Event := (.working, .message 7 .createSessionRequest)
    let delete : Peers × Event :=
      (.failing (some "no answer") none, .message 8 .deleteSessionRequest)
    s.machine.transaction = none ∧ s.state = .initial ∧
      (s.runEvents (.ofSeconds 3) [create]).state = .waiting .createSession ∧
      ¬ (Exchanges [create.2, delete.2] ∨ (∃ p, Pending p [create.2, delete.2]) ∨
        Finished [create.2, delete.2]) := by
  intro s create delete
  have hone := state_runEvents_iff (s := s) (.ofSeconds 3) [create] rfl (.inl rfl)
  have htwo := state_runEvents_iff (s := s) (.ofSeconds 3) [create, delete] rfl (.inl rfl)
  refine ⟨rfl, rfl, (hone.2.2.1 .createSession).2 (.request 7 .nil rfl), fun h => ?_⟩
  refine htwo.2.2.2.2.2 h ?_
  rw [runEvents_eq]
  rfl

end Session

end SessionControl
