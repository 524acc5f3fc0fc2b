import SessionControl.Proofs.Roaming.Step

/-!
# The open transaction

A session has a transaction open exactly while it awaits a response, and the transaction is the
one that the last event opened.

## Main definitions

- `Session.Reaches` — the sessions that a list of operations leads to
- `Roaming.Machine.Settled` — the transaction of a machine agrees with its state

## Main statements

- `Session.transaction_of_reaches` — the open transaction of every reachable session
-/

namespace SessionControl

namespace Roaming

/-- A transaction is open exactly if a response is awaited, and then it is a transaction of the
awaited procedure with the configured timeout. -/
inductive Machine.Settled (timer : ResponseTimer) : Machine → Prop
  | closed (state : State) : (∀ p, state ≠ .waiting p) →
      Machine.Settled timer { state, transaction := none }
  | awaiting (id : UInt64) (p : Procedure) :
      Machine.Settled timer
        { state := .waiting p
          transaction := some { id, procedure := p, timeout := timer.seconds } }

/-- A response is awaited only after a request that arrived while none was, and the request has
opened its own transaction. -/
theorem Machine.step_waiting {timer : ResponseTimer} {m : Machine} {e : Event} {p : Procedure}
    (h : (m.step timer e).state = .waiting p) :
    (∀ q, m.state ≠ .waiting q) ∧ (m.step timer e).transaction =
      some { id := e.transaction, procedure := p, timeout := timer.seconds } := by
  rcases m with ⟨state, held⟩
  cases state with
  | initial | operational =>
    refine ⟨fun q => by simp, ?_⟩
    rcases e with ⟨id, msg⟩ | id
    · cases msg <;>
        simp [step, transition, whenOperational, Action.openAfter] at h ⊢ <;> exact h
    · simp [step, transition, whenOperational] at h
  | waiting q =>
    -- No event leads from awaiting one response to awaiting another.
    exfalso
    simp only [step, transition] at h
    rcases e with ⟨id, msg⟩ | id
    · simp only [whenWaiting] at h
      split at h
      · cases q <;> simp [afterResponse] at h
      · simp at h
    · simp [whenWaiting] at h
  | final | exception => simp [step, transition] at h

/-- The transaction is closed by every event that does not make the session await a response. -/
theorem Machine.step_transaction_eq_none {timer : ResponseTimer} {m : Machine} {e : Event}
    (hm : m.Settled timer) (h : ∀ p, (m.step timer e).state ≠ .waiting p) :
    (m.step timer e).transaction = none := by
  cases hm with
  | closed state hstate =>
    cases state with
    | initial | operational =>
      rcases e with ⟨id, msg⟩ | id
      · cases msg <;>
          simp [step, transition, whenOperational, Action.openAfter] at h ⊢
      · rfl
    | waiting p => exact absurd rfl (hstate p)
    | final | exception => rfl
  | awaiting id p =>
    rcases e with ⟨id', msg⟩ | id'
    · simp only [step, transition, whenWaiting]
      split <;> rfl
    · rfl

theorem Machine.Settled.step {timer : ResponseTimer} {m : Machine} (hm : m.Settled timer)
    (e : Event) : (m.step timer e).Settled timer := by
  by_cases h : ∃ p, (m.step timer e).state = .waiting p
  · obtain ⟨p, hp⟩ := h
    have ht := (Machine.step_waiting hp).2
    rcases hstep : m.step timer e with ⟨state, held⟩
    rw [hstep] at hp ht
    subst hp ht
    exact .awaiting e.transaction p
  · have hne : ∀ p, (m.step timer e).state ≠ .waiting p := fun p hp => h ⟨p, hp⟩
    have ht := Machine.step_transaction_eq_none hm hne
    rcases hstep : m.step timer e with ⟨state, held⟩
    rw [hstep] at hne ht
    subst ht
    exact .closed state hne

theorem Machine.Settled.isSome_iff {timer : ResponseTimer} {m : Machine}
    (hm : m.Settled timer) : m.transaction.isSome ↔ ∃ p, m.state = .waiting p := by
  cases hm with
  | closed state hstate => simpa using hstate
  | awaiting id p => simp

theorem Machine.Settled.transaction_eq_none {timer : ResponseTimer} {m : Machine}
    (hm : m.Settled timer) (h : ∀ p, m.state ≠ .waiting p) : m.transaction = none := by
  cases hm with
  | closed state _ => rfl
  | awaiting id p => exact absurd rfl (h p)

/-- What is done with the machine of a session. -/
inductive Operation where
  /-- An event is run, with the answers of the collaborators to it. -/
  | event (peers : Peers) (event : Event)
  /-- The machine is put into use. -/
  | start
  /-- The machine is put out of use. -/
  | stop

end Roaming

namespace Session

open Roaming (Event Machine Operation Procedure ResponseTimer State)

/-- The sessions that a list of operations leads to. A machine is put into use only before it
has begun; it may be put out of use, and events may arrive, at any time. -/
inductive Reaches (timer : ResponseTimer) (s₀ : Session) : List Operation → Session → Prop
  | refl : Reaches timer s₀ [] s₀
  | event {ops : List Operation} {s : Session} (peers : Peers) (e : Event) :
      Reaches timer s₀ ops s →
      Reaches timer s₀ (ops ++ [.event peers e]) (s.dispatch timer peers e).value.2
  | start {ops : List Operation} {s : Session} :
      Reaches timer s₀ ops s → s.state = .initial →
      Reaches timer s₀ (ops ++ [.start]) s.startMachine.value
  | stop {ops : List Operation} {s : Session} :
      Reaches timer s₀ ops s → Reaches timer s₀ (ops ++ [.stop]) s.stopMachine.value

variable {timer : ResponseTimer} {s₀ s : Session} {ops : List Operation}

theorem Reaches.settled (h : s₀.Reaches timer ops s) (h₀ : s₀.machine.Settled timer) :
    s.machine.Settled timer := by
  induction h with
  | refl => exact h₀
  | event peers e _ ih =>
    rw [session_dispatch]
    exact ih.step e
  | start _ hs ih =>
    have ht := ih.transaction_eq_none (fun p hp => by simp [state, hp] at hs)
    simp only [value_startMachine, ht]
    exact .closed .operational (by simp)
  | stop _ ih => exact .closed .final (by simp)

/-- A reachable session awaits a response only right after the event that made it do so. -/
theorem Reaches.entered (h : s₀.Reaches timer ops s) (h₀ : ∀ p, s₀.state ≠ .waiting p)
    {p : Procedure} (hs : s.state = .waiting p) :
    ∃ before s' peers e, ops = before ++ [.event peers e] ∧ s₀.Reaches timer before s' ∧
      (∀ q, s'.state ≠ .waiting q) ∧ s = (s'.dispatch timer peers e).value.2 ∧
      s.machine.transaction =
        some { id := e.transaction, procedure := p, timeout := timer.seconds } := by
  cases h with
  | refl => exact absurd hs (h₀ p)
  | @event before s' peers e hreach =>
    simp only [session_dispatch, state] at hs ⊢
    obtain ⟨hne, ht⟩ := Machine.step_waiting hs
    exact ⟨before, s', peers, e, rfl, hreach, hne, rfl, ht⟩
  | start _ _ => simp [state] at hs
  | stop _ => simp [state] at hs

/-- A session that starts with a new machine has a transaction open exactly while it awaits a
response. The transaction belongs to the awaited procedure, has the configured timeout, and is
the transaction of the event that made the session await the response, which is the last thing
that happened. -/
theorem transaction_of_reaches (h₀ : s₀.machine = {}) (h : s₀.Reaches timer ops s) :
    (s.machine.transaction.isSome ↔ ∃ p, s.state = .waiting p) ∧
    ∀ t, s.machine.transaction = some t →
      s.state = .waiting t.procedure ∧ t.timeout = timer.seconds ∧
      ∃ before s' peers e, ops = before ++ [.event peers e] ∧ s₀.Reaches timer before s' ∧
        (∀ q, s'.state ≠ .waiting q) ∧ s = (s'.dispatch timer peers e).value.2 ∧
        t.id = e.transaction := by
  have hsettled : s.machine.Settled timer := by
    refine h.settled ?_
    rw [h₀]
    exact .closed .initial (by simp)
  refine ⟨hsettled.isSome_iff, fun t ht => ?_⟩
  obtain ⟨p, hp⟩ := hsettled.isSome_iff.1 (by simp [ht])
  obtain ⟨before, s', peers, e, hops, hreach, hne, hlast, hopen⟩ :=
    h.entered (by simp [state, h₀]) hp
  obtain rfl : t = { id := e.transaction, procedure := p, timeout := timer.seconds } := by
    rw [hopen] at ht
    exact (Option.some.inj ht).symm
  exact ⟨hp, rfl, before, s', peers, e, hops, hreach, hne, hlast, rfl⟩

/-- The transaction of a second procedure is open although its request could not be carried
out, and the transaction of the first procedure is not. -/
theorem transaction_of_reaches_delete :
    let s₀ := Session.new 1 1 "001010000000001" (some "internet")
    let ops : List Operation := [.start, .event .working (.message 7 .createSessionRequest),
      .event .working (.message 7 (.createSessionResponse none)),
      .event (.failing (some "no answer") none) (.message 9 .deleteSessionRequest)]
    ∃ s, s₀.machine = {} ∧ s₀.Reaches (.ofSeconds 3) ops s ∧ s.machine.transaction.isSome ∧
      ∀ t, s.machine.transaction = some t →
        s.state = .waiting t.procedure ∧ t.timeout = 3 ∧ t.id = 9 := by
  intro s₀ ops
  have hreach : s₀.Reaches (.ofSeconds 3) ops _ :=
    (((Reaches.refl.start rfl).event _ _).event _ _).event _ _
  obtain ⟨hopen, hform⟩ := transaction_of_reaches rfl hreach
  refine ⟨_, rfl, hreach, hopen.2 ⟨.deleteSession, by simp only [session_dispatch]; rfl⟩,
    fun t ht => ?_⟩
  obtain ⟨hs, htimeout, before, s', peers, e, hops, -, -, -, hid⟩ := hform t ht
  have hlast : some (Operation.event peers e) = ops.getLast? := by rw [hops]; simp
  injection hlast with hlast
  injection hlast with _ hevent
  exact ⟨hs, htimeout, by rw [hid, hevent]; rfl⟩

end Session

end SessionControl
