import SessionControl.Proofs.Roaming.Calls
import SessionControl.Proofs.Roaming.Transaction

/-!
# The discipline of the response timer

The timer follows the open transaction: it is started when a transaction is opened and stopped
when that transaction is closed. As a transaction is opened only while none is open, starts and
stops take turns, and a timer runs exactly while a response is awaited.

## Main definitions

- `Roaming.TimerStep` — the open transaction before and after an event, and the timer calls
- `Roaming.Alternates` — starts and stops that take turns

## Main statements

- `Session.timerStep_dispatch` — what one event does with the timer
- `Session.alternates_of_run` — what the events of a run do with the timer
-/

namespace SessionControl

/-- A request to the timers. -/
def Call.isTimer : Call → Bool
  | .startTimer .. | .stopTimer .. => true
  | .userPlane .. | .commit .. | .bind .. | .connect .. | .set .. | .delete ..
  | .disconnect => false

theorem Call.isTimer_eq_false {c : Call} (h : c.isSignalling) : c.isTimer = false := by
  cases c with
  | startTimer _ _ | stopTimer _ => exact absurd h Bool.false_ne_true
  | userPlane _ _ _ | commit _ _ | bind _ | connect _ _ | set _ _ | delete _ | disconnect => rfl

namespace Roaming

/-- The open transaction before and after an event, and what the event does with the timer. -/
inductive TimerStep (timer : ResponseTimer) :
    Option Transaction → Option Transaction → List Call → Prop
  | idle : TimerStep timer none none []
  | opened (t : Transaction) : TimerStep timer none (some t) (timer.startCalls t.id)
  | closed (t : Transaction) : TimerStep timer (some t) none [.stopTimer t.id]

/-- Timers that run for `seconds` are started and stopped by turns, and each is stopped on the
transaction that it was started on. The last index is the transaction whose timer still runs. -/
inductive Alternates (seconds : UInt64) : List Call → Option UInt64 → Prop
  | nil : Alternates seconds [] none
  | start {calls : List Call} (id : UInt64) : Alternates seconds calls none →
      Alternates seconds (calls ++ [.startTimer id seconds]) (some id)
  | stop {calls : List Call} {id : UInt64} : Alternates seconds calls (some id) →
      Alternates seconds (calls ++ [.stopTimer id]) none

variable {timer : ResponseTimer}

theorem ResponseTimer.filter_startCalls (timer : ResponseTimer) (id : UInt64) :
    (timer.startCalls id).filter Call.isTimer = timer.startCalls id := by
  unfold startCalls
  split <;> rfl

theorem Machine.filter_stopCalls (m : Machine) :
    m.stopCalls.filter Call.isTimer = m.stopCalls := by
  unfold stopCalls
  split <;> rfl

theorem Action.filter_timerCalls (timer : ResponseTimer) (m : Machine) (id : UInt64)
    (action : Action) :
    (action.timerCalls timer m id).filter Call.isTimer = action.timerCalls timer m id := by
  cases action with
  | createSession | modifyBearer _ | deleteSession => exact timer.filter_startCalls id
  | response _ _ | violation | timeout => exact m.filter_stopCalls
  | resourceCommand _ | resourceFailure _ | ignore => rfl

theorem Action.filter_perform (peers : Peers) (s : Session) (id : UInt64) (action : Action) :
    (action.perform peers s id).calls.filter Call.isTimer = [] := by
  rw [List.filter_eq_nil_iff]
  intro c hc
  rw [Call.isTimer_eq_false (action.isSignalling_of_perform peers s id c hc)]
  exact Bool.false_ne_true

/-- While no response is awaited an event opens a transaction or leaves none, and while one is
awaited every event closes the transaction. -/
theorem Machine.Settled.timerStep {m : Machine} (hm : m.Settled timer) (e : Event) :
    TimerStep timer m.transaction (m.step timer e).transaction
      ((transition m.state e m.transaction).2.timerCalls timer m e.transaction) := by
  cases hm with
  | closed state hstate =>
    cases state with
    | initial | operational =>
      rcases e with ⟨id, msg⟩ | id
      · cases msg with
        | createSessionRequest | modifyBearerRequest _ | deleteSessionRequest => exact .opened _
        | createSessionResponse _ | modifyBearerResponse _ | deleteSessionResponse _
        | bearerResourceCommand _ | bearerResourceFailureIndication _ => exact .idle
      · exact .idle
    | waiting p => exact absurd rfl (hstate p)
    | final | exception => exact .idle
  | awaiting id p =>
    rcases e with ⟨id', msg⟩ | id'
    · simp only [Machine.step, transition, whenWaiting]
      split <;> exact .closed _
    · exact .closed _

/-- Starts and stops go on taking turns, whatever the event. -/
theorem TimerStep.alternates (henabled : timer.enabled) {calls added : List Call}
    {before after : Option Transaction} (h : TimerStep timer before after added)
    (hcalls : Alternates timer.seconds calls (before.map Transaction.id)) :
    Alternates timer.seconds (calls ++ added) (after.map Transaction.id) := by
  cases h with
  | idle =>
    rw [List.append_nil]
    exact hcalls
  | opened t =>
    rw [ResponseTimer.startCalls, if_pos henabled]
    exact hcalls.start t.id
  | closed t => exact hcalls.stop

theorem TimerStep.startTimer_not_mem (hdisabled : timer.enabled = false) {added : List Call}
    {before after : Option Transaction} (h : TimerStep timer before after added)
    (id seconds : UInt64) : .startTimer id seconds ∉ added := by
  cases h with
  | idle => exact List.not_mem_nil
  | opened t => simp [ResponseTimer.startCalls, hdisabled]
  | closed t => simp

theorem TimerStep.of_stopTimer_mem {added : List Call} {before after : Option Transaction}
    (h : TimerStep timer before after added) {id : UInt64} (hid : .stopTimer id ∈ added) :
    before.map Transaction.id = some id ∧ after = none := by
  cases h with
  | idle => exact absurd hid List.not_mem_nil
  | opened t =>
    rw [ResponseTimer.startCalls] at hid
    split at hid <;> simp at hid
  | closed t =>
    obtain rfl : id = t.id := by simpa using hid
    exact ⟨rfl, rfl⟩

end Roaming

namespace Session

open Roaming (Alternates Event Machine ResponseTimer State TimerStep Transaction)

variable {timer : ResponseTimer} {s : Session}

/-- The timer calls of an event are those of the change that it makes to the open transaction. -/
theorem timerStep_dispatch (hs : s.machine.Settled timer) (peers : Peers) (e : Event) :
    TimerStep timer s.machine.transaction
      (s.dispatch timer peers e).value.2.machine.transaction
      ((s.dispatch timer peers e).calls.filter Call.isTimer) := by
  rw [session_dispatch, calls_dispatch, List.filter_append, Roaming.Action.filter_perform,
    Roaming.Action.filter_timerCalls, List.nil_append]
  exact hs.timerStep e

theorem settled_runEvents (hs : s.machine.Settled timer) (es : List (Peers × Event)) :
    (s.runEvents timer es).machine.Settled timer := by
  induction es using List.reverseRecOn with
  | nil => exact hs
  | append_singleton es x ih =>
    rw [runEvents_concat, session_dispatch]
    exact ih.step x.2

theorem alternates_traceEvents (henabled : timer.enabled) (hs : s.machine.Settled timer)
    (hopen : s.machine.transaction = none) (es : List (Peers × Event)) :
    Alternates timer.seconds ((s.traceEvents timer es).calls.filter Call.isTimer)
      ((s.runEvents timer es).machine.transaction.map Transaction.id) := by
  induction es using List.reverseRecOn with
  | nil =>
    change Alternates timer.seconds [] (s.machine.transaction.map Transaction.id)
    rw [hopen]
    exact .nil
  | append_singleton es x ih =>
    rw [calls_traceEvents_concat, runEvents_concat, List.filter_append]
    exact (timerStep_dispatch (settled_runEvents hs es) x.1 x.2).alternates henabled ih

theorem startTimer_not_mem_traceEvents (hdisabled : timer.enabled = false)
    (hs : s.machine.Settled timer) (es : List (Peers × Event)) (id seconds : UInt64) :
    .startTimer id seconds ∉ (s.traceEvents timer es).calls := by
  induction es using List.reverseRecOn with
  | nil => exact List.not_mem_nil
  | append_singleton es x ih =>
    rw [calls_traceEvents_concat, List.mem_append]
    rintro (h | h)
    · exact ih h
    · exact (timerStep_dispatch (settled_runEvents hs es) x.1 x.2).startTimer_not_mem hdisabled
        id seconds (List.mem_filter.2 ⟨h, rfl⟩)

/-- The response timer of a session that starts without an open transaction. If the timer is
used, its starts and stops take turns, each start is for the configured time, and the timer that is
left running is the one of the open transaction, which there is exactly while a response is
awaited. If it is not used, it is never started. In either case, after any run, an event stops
only the timer of the transaction that it closes. -/
theorem alternates_of_run (timer : ResponseTimer) (hopen : s.machine.transaction = none)
    (hs : ∀ p, s.state ≠ .waiting p) (es : List (Peers × Event)) :
    let after := s.runEvents timer es
    let calls := (s.traceEvents timer es).calls
    (timer.enabled → ∃ armed, Alternates timer.seconds (calls.filter Call.isTimer) armed ∧
      armed = after.machine.transaction.map Transaction.id ∧
      (armed.isSome ↔ ∃ p, after.state = .waiting p)) ∧
    (timer.enabled = false → ∀ id seconds, .startTimer id seconds ∉ calls) ∧
    ∀ peers e id, .stopTimer id ∈ (after.dispatch timer peers e).calls →
      after.machine.transaction.map Transaction.id = some id ∧
        (after.dispatch timer peers e).value.2.machine.transaction = none := by
  intro after calls
  have hsettled : s.machine.Settled timer := by
    rcases hm : s.machine with ⟨state, held⟩
    obtain rfl : held = none := by simpa [hm] using hopen
    exact .closed state (by simpa [Session.state, hm] using hs)
  refine ⟨fun henabled => ?_, fun hdisabled => ?_, fun peers e id hid => ?_⟩
  · refine ⟨_, alternates_traceEvents henabled hsettled hopen es, rfl, ?_⟩
    rw [Option.isSome_map]
    exact (settled_runEvents hsettled es).isSome_iff
  · exact startTimer_not_mem_traceEvents hdisabled hsettled es
  · exact (timerStep_dispatch (settled_runEvents hsettled es) peers e).of_stopTimer_mem
      (List.mem_filter.2 ⟨hid, rfl⟩)

/-- A timer that runs out on another transaction still stops the one that was started. -/
theorem alternates_of_run_foreign :
    let s := Session.new 1 1 "001010000000001" (some "internet")
    let es : List (Peers × Event) :=
      [(.failing (some "no answer") none, .message 7 .createSessionRequest), (.working, .timer 9)]
    (s.runEvents (.ofSeconds 3) es).state = .exception ∧
      Alternates 3 ((s.traceEvents (.ofSeconds 3) es).calls.filter Call.isTimer) none := by
  intro s es
  have hafter : (s.runEvents (.ofSeconds 3) es).machine = { state := .exception } := by
    rw [runEvents_eq]
    rfl
  have hs : ∀ p, s.state ≠ .waiting p := fun p => State.noConfusion
  obtain ⟨armed, halternates, harmed, -⟩ := (alternates_of_run (.ofSeconds 3) rfl hs es).1 rfl
  rw [harmed, hafter] at halternates
  exact ⟨by rw [Session.state, hafter], halternates⟩

end Session

end SessionControl
