import SessionControl.Proofs.Policy.LastInstall
import SessionControl.Proofs.Policy.Machine
import SessionControl.Proofs.Policy.Refusal
import SessionControl.Proofs.Roaming.Timer

/-!
# Policy and roaming are independent

A session is given messages of the policy server and roaming events, in any order. An event reads
the subscriber and the machine of the session and writes the machine; a message reads and writes
everything but the machine, and never changes the subscriber. So an event and a message that follow
each other may change places, and the order of all messages among all events makes no difference.

## Main definitions

- `Session.Input`, `Session.runInputs` — what a session is given, and running a list of it
- `Call.isRoaming` — a call that is made for roaming events
- `Attempt.Agrees` — attempts that come to the same and make the same calls of either kind

## Main statements

- `Attempt.agrees_comm` — computations of either kind change places
- `Session.agrees_swap` — an event and a message change places
- `Session.runInputs_of_interleaving` — all orders agree with the one of the messages first
-/

namespace SessionControl

/-- A call that is made for a roaming event: to the user plane, to the peer or about the timer. -/
def Call.isRoaming (c : Call) : Bool :=
  c.isSignalling || c.isTimer

/-! ## Attempts that agree -/

namespace Attempt

variable {α β γ : Type}

/-- Two attempts come to the same. If that is no fault, they make the same calls for roaming
events, and the same other calls. -/
structure Agrees (x y : Attempt α) : Prop where
  result : x.result = y.result
  calls : ∀ a, x.result = .ok a →
    x.run.calls.partition (·.isRoaming) = y.run.calls.partition (·.isRoaming)

namespace Agrees

variable {x y z : Attempt α} {f g : α → Attempt β}

protected theorem refl (x : Attempt α) : x.Agrees x := ⟨rfl, fun _ _ => rfl⟩

protected theorem trans (h : x.Agrees y) (h' : y.Agrees z) : x.Agrees z where
  result := h.result.trans h'.result
  calls a ha := (h.calls a ha).trans (h'.calls a (h.result.symm.trans ha))

protected theorem bind (h : x.Agrees y) (hf : ∀ a, (f a).Agrees (g a)) :
    (x >>= f).Agrees (y >>= g) := by
  have hresult : x.run.value = y.run.value := h.result
  cases hx : x.run.value with
  | error fault =>
    have hy := hresult ▸ hx
    refine ⟨?_, fun b hb => ?_⟩
    · rw [Attempt.result, Attempt.result, Traced.run_bind_of_error hx, Traced.run_bind_of_error hy]
      rfl
    · rw [Attempt.result, Traced.run_bind_of_error hx] at hb
      cases hb
  | ok a =>
    have hy := hresult ▸ hx
    have hcalls := h.calls a hx
    obtain ⟨hvalue, hrest⟩ := hf a
    refine ⟨?_, fun b hb => ?_⟩
    · rw [Attempt.result, Attempt.result, Traced.run_bind_of_ok hx, Traced.run_bind_of_ok hy]
      exact hvalue
    · rw [Attempt.result, Traced.run_bind_of_ok hx] at hb
      have hrest := hrest b hb
      rw [Traced.run_bind_of_ok hx, Traced.run_bind_of_ok hy, Traced.calls_bind,
        Traced.calls_bind]
      simp only [List.partition_eq_filter_filter, Prod.mk.injEq, List.filter_append]
        at hcalls hrest ⊢
      rw [hcalls.1, hcalls.2, hrest.1, hrest.2]
      exact ⟨rfl, rfl⟩

end Agrees

section Commute

variable {x : Traced α} {y : Attempt β} {f : β → Attempt γ}

/-- After a computation that cannot fail the next one runs. -/
theorem run_lift_bind (x : Traced α) (f : α → Attempt β) :
    ((liftM x : Attempt α) >>= f).run = x >>= fun _ => (f x.value).run := by
  have hrun : (liftM x : Attempt α).run = Except.ok <$> x := rfl
  rw [Traced.run_bind_of_ok (a := x.value) rfl, hrun, bind_map_left]

theorem lift_bind (x : Traced α) (f : α → Attempt β) :
    (liftM x : Attempt α) >>= f = (liftM x : Attempt α) >>= fun _ => f x.value := by
  refine ExceptT.ext ?_
  rw [run_lift_bind, run_lift_bind]

/-- A computation that is made for a roaming event and one that is not may change places, if the
first one calls the same and is followed by the same after the second one. -/
theorem agrees_comm {x' : β → Traced α} {g : β → α → Attempt γ}
    (hx : ∀ c ∈ x.calls, c.isRoaming) (hy : ∀ c ∈ y.run.calls, c.isRoaming = false)
    (hsame : ∀ b, y.result = .ok b → (x' b).calls = x.calls ∧ g b (x' b).value = f b) :
    ((liftM x : Attempt α) >>= fun _ => y >>= f).Agrees
      (y >>= fun b => (liftM (x' b) : Attempt α) >>= g b) := by
  cases hvalue : y.run.value with
  | error fault =>
    have hfault : ((liftM x : Attempt α) >>= fun _ => y >>= f).result = .error fault := by
      rw [result, run_lift_bind, Traced.run_bind_of_error hvalue]
      rfl
    refine ⟨?_, fun c hc => ?_⟩
    · rw [hfault, result, Traced.run_bind_of_error hvalue]
      rfl
    · rw [hfault] at hc
      cases hc
  | ok b =>
    obtain ⟨hcalls, hrest⟩ := hsame b hvalue
    have hleft : ((liftM x : Attempt α) >>= fun _ => y >>= f).run =
        x >>= fun _ => y.run >>= fun _ => (f b).run := by
      rw [run_lift_bind, Traced.run_bind_of_ok hvalue]
    have hright : (y >>= fun b => (liftM (x' b) : Attempt α) >>= g b).run =
        y.run >>= fun _ => x' b >>= fun _ => (f b).run := by
      rw [Traced.run_bind_of_ok hvalue, run_lift_bind, hrest]
    refine ⟨by rw [result, result, hleft, hright]; rfl, fun _ _ => ?_⟩
    -- Each part of the calls has what it had, since one of the two computations adds nothing to it.
    have hroaming : y.run.calls.filter (·.isRoaming) = [] := by
      refine List.filter_eq_nil_iff.mpr fun c hc => ?_
      rw [hy c hc]
      exact Bool.false_ne_true
    have hothers : x.calls.filter (not ∘ (·.isRoaming)) = [] := by
      refine List.filter_eq_nil_iff.mpr fun c hc => ?_
      rw [Function.comp_apply, hx c hc]
      exact Bool.false_ne_true
    simp only [hleft, hright, Traced.calls_bind, hcalls, List.partition_eq_filter_filter,
      List.filter_append, hroaming, hothers, List.nil_append]

end Commute

end Attempt

namespace Roaming

open Attempt

/-! ## What an event reads -/

variable {s t : Session}

/-- What an action does for its message depends on the subscriber and on the machine. -/
theorem Action.perform_congr (himsi : t.imsi = s.imsi) (hmachine : t.machine = s.machine)
    (peers : Peers) (id : UInt64) (action : Action) :
    action.perform peers t id = action.perform peers s id := by
  have hcarry : ∀ request, carryOut peers t request = carryOut peers s request := by
    intro request
    rw [carryOut, carryOut, himsi, hmachine]
  have hrequest : ∀ p request,
      handleRequest peers t id p request = handleRequest peers s id p request := by
    intro p request
    simp only [handleRequest, himsi, hcarry]
  cases action with
  | createSession | modifyBearer _ | deleteSession => simp only [perform, hrequest]
  | resourceCommand linkedBearer => simp only [perform, handleCommand, himsi, hcarry]
  | response p cause => rw [perform, perform, himsi]
  | resourceFailure _ | violation | timeout | ignore => rfl

end Roaming

namespace Session

open Attempt
open Roaming (Action Event Machine Outcome ResponseTimer)

variable {timer : ResponseTimer} {config : Config} {s t : Session}

/-- What an event calls, and what the caller learns, depend on the subscriber and on the machine. -/
theorem dispatch_congr (himsi : t.imsi = s.imsi) (hmachine : t.machine = s.machine)
    (timer : ResponseTimer) (peers : Peers) (e : Event) :
    (t.dispatch timer peers e).calls = (s.dispatch timer peers e).calls ∧
      (t.dispatch timer peers e).value.1 = (s.dispatch timer peers e).value.1 := by
  have hstate : t.state = s.state := congrArg Machine.state hmachine
  have hbegun : t.begun.imsi = s.begun.imsi ∧ t.begun.machine = s.begun.machine := by
    unfold begun
    rw [hstate]
    split
    · exact ⟨himsi, by rw [value_startMachine, value_startMachine, hmachine]⟩
    · exact ⟨himsi, hmachine⟩
  have hperform := fun action : Action =>
    Action.perform_congr hbegun.1 hbegun.2 peers e.transaction action
  rw [calls_dispatch, calls_dispatch, outcome_dispatch, outcome_dispatch, hperform, hstate,
    hmachine, show t.begun.state = s.begun.state from congrArg Machine.state hbegun.2]
  exact ⟨rfl, rfl⟩

/-- All calls of an event are made for roaming. -/
theorem isRoaming_of_dispatch (s : Session) (timer : ResponseTimer) (peers : Peers) (e : Event) :
    ∀ c ∈ (s.dispatch timer peers e).calls, c.isRoaming := by
  intro c hc
  rw [calls_dispatch, List.mem_append] at hc
  rw [Call.isRoaming, Bool.or_eq_true]
  generalize (Roaming.transition s.state e s.machine.transaction).2 = action at hc
  obtain hc | hc := hc
  · exact .inl (action.isSignalling_of_perform _ _ _ c hc)
  · exact .inr (List.filter_eq_self.mp (action.filter_timerCalls _ _ _) c hc)

/-- No call of a message is made for roaming. -/
theorem not_isRoaming_of_handlePolicy (s : Session) (config : Config) (m : Policy.Message) :
    ∀ c ∈ (s.handlePolicy config m).run.calls, c.isRoaming = false := by
  rw [calls_handlePolicy]
  split <;> simp [Call.isRoaming, Call.isSignalling, Call.isTimer]

/-! ## Runs -/

/-- What a session is given: a message of the policy server, or a roaming event with the answers
of the collaborators to it. -/
abbrev Input := Policy.Message ⊕ (Peers × Event)

/-- What comes back for a list of inputs, in their order. -/
structure Replies where
  /-- The result codes that are answered to the messages; some messages are not answered. -/
  answers : List (Option UInt32) := []
  /-- What the caller learns about the events. -/
  outcomes : List Outcome := []
  deriving DecidableEq, Repr

/-- Runs a list of inputs on a session, up to a message that ends in a fault. -/
def runInputs (timer : ResponseTimer) (config : Config) :
    Session → List Input → Attempt (Replies × Session)
  | s, [] => pure ({}, s)
  | s, .inl m :: inputs => do
    let (answer, s) ← s.handlePolicy config m
    let (replies, s) ← runInputs timer config s inputs
    pure ({ replies with answers := answer :: replies.answers }, s)
  | s, .inr (peers, e) :: inputs => do
    let (outcome, s) ← s.dispatch timer peers e
    let (replies, s) ← runInputs timer config s inputs
    pure ({ replies with outcomes := outcome :: replies.outcomes }, s)

/-- Inputs that agree on every session still do so after one more. -/
theorem agrees_cons {inputs inputs' : List Input}
    (h : ∀ s, (runInputs timer config s inputs).Agrees (runInputs timer config s inputs'))
    (s : Session) (input : Input) :
    (s.runInputs timer config (input :: inputs)).Agrees
      (s.runInputs timer config (input :: inputs')) := by
  rcases input with m | ⟨peers, e⟩
  · exact (Agrees.refl _).bind fun x => (h x.2).bind fun _ => .refl _
  · exact (Agrees.refl _).bind fun x => (h x.2).bind fun _ => .refl _

/-- An event and a message that follow each other may change places. -/
theorem agrees_swap (s : Session) (peers : Peers) (e : Event) (m : Policy.Message)
    (inputs : List Input) :
    (s.runInputs timer config (.inr (peers, e) :: .inl m :: inputs)).Agrees
      (s.runInputs timer config (.inl m :: .inr (peers, e) :: inputs)) := by
  -- What is left to do after both, with the session as it is then.
  let rest (answer : Option UInt32) (outcome : Outcome) (s : Session) :
      Attempt (Replies × Session) := do
    let (replies, s) ← s.runInputs timer config inputs
    pure ({ answers := answer :: replies.answers, outcomes := outcome :: replies.outcomes }, s)
  have hevent : s.runInputs timer config (.inr (peers, e) :: .inl m :: inputs) =
      (s.dispatch timer peers e : Attempt _) >>= fun _ => s.handlePolicy config m >>= fun x =>
        rest x.1 (s.dispatch timer peers e).value.1
          (x.2.withMachine (s.machine.step timer e)) := by
    have hnow : (s.dispatch timer peers e).value =
        ((s.dispatch timer peers e).value.1, s.withMachine (s.machine.step timer e)) :=
      Prod.ext rfl (s.session_dispatch timer peers e)
    rw [runInputs, lift_bind, hnow]
    simp only [runInputs, handlePolicy_withMachine, bind_map_left, bind_assoc, pure_bind]
    rfl
  have hmessage : s.runInputs timer config (.inl m :: .inr (peers, e) :: inputs) =
      s.handlePolicy config m >>= fun x =>
        (x.2.dispatch timer peers e : Attempt _) >>= fun y => rest x.1 y.1 y.2 := by
    simp only [runInputs, bind_assoc, pure_bind]
    rfl
  rw [hevent, hmessage]
  refine agrees_comm (s.isRoaming_of_dispatch timer peers e)
    (s.not_isRoaming_of_handlePolicy config m) fun x hx => ?_
  -- The message has left the event what it reads.
  have hframe := frame_handlePolicy hx
  have himsi : x.2.imsi = s.imsi := by rw [hframe]
  have hmachine : x.2.machine = s.machine := by rw [hframe]
  obtain ⟨hcalls, houtcome⟩ := dispatch_congr himsi hmachine timer peers e
  have hnow : (x.2.dispatch timer peers e).value.2 =
      x.2.withMachine (s.machine.step timer e) := by
    rw [session_dispatch, hmachine]
    rfl
  rw [houtcome, hnow]
  exact ⟨hcalls, rfl⟩

/-- An event may be moved behind any number of messages. -/
theorem agrees_move (s : Session) (event : Peers × Event) (messages : List Policy.Message)
    (inputs : List Input) :
    (s.runInputs timer config (.inr event :: (messages.map .inl ++ inputs))).Agrees
      (s.runInputs timer config (messages.map .inl ++ .inr event :: inputs)) := by
  induction messages generalizing s with
  | nil => exact .refl _
  | cons m messages ih =>
    rw [List.map_cons, List.cons_append, List.cons_append]
    exact (s.agrees_swap event.1 event.2 m _).trans (agrees_cons ih s (.inl m))

/-- Inputs agree with the same messages in their order, followed by the same events in theirs. -/
theorem agrees_apart (s : Session) (inputs : List Input) :
    (s.runInputs timer config inputs).Agrees
      (s.runInputs timer config ((inputs.filterMap Sum.getLeft?).map .inl ++
        (inputs.filterMap Sum.getRight?).map .inr)) := by
  induction inputs generalizing s with
  | nil => exact .refl _
  | cons input inputs ih =>
    refine (agrees_cons ih s input).trans ?_
    rcases input with m | event
    · exact .refl _
    · exact s.agrees_move event _ _

/-- The policy and the roaming of a session are independent. Let messages of the policy server and
roaming events be mixed in any order that keeps each kind in its own order. Running the mixture on
any session comes to the same as running all messages first and all events after: the same answer
to each message, the same outcome of each event, the same session at the end, or else the same
fault of a message. If no message ends in a fault, the calls of the user plane, of the peer and of
the timer are made in the same order too, and so are the other calls. -/
theorem runInputs_of_interleaving (timer : ResponseTimer) (config : Config) (s : Session)
    (messages : List Policy.Message) (events : List (Peers × Event)) (inputs : List Input)
    (hmessages : inputs.filterMap Sum.getLeft? = messages)
    (hevents : inputs.filterMap Sum.getRight? = events) :
    let mixed := s.runInputs timer config inputs
    let apart := s.runInputs timer config (messages.map .inl ++ events.map .inr)
    mixed.result = apart.result ∧
      ((∃ x, mixed.result = .ok x) →
        mixed.run.calls.filter (·.isRoaming) = apart.run.calls.filter (·.isRoaming) ∧
          mixed.run.calls.filter (!·.isRoaming) = apart.run.calls.filter (!·.isRoaming)) := by
  intro mixed apart
  obtain ⟨hresult, hcalls⟩ : mixed.Agrees apart := by
    rw [show apart = s.runInputs timer config (messages.map .inl ++ events.map .inr) from rfl,
      ← hmessages, ← hevents]
    exact s.agrees_apart inputs
  refine ⟨hresult, ?_⟩
  rintro ⟨x, hx⟩
  have hcalls := hcalls x hx
  rw [List.partition_eq_filter_filter, List.partition_eq_filter_filter, Prod.mk.injEq] at hcalls
  exact hcalls

/-- A session is created at the peer while a decision is installed and another one is pushed. -/
theorem runInputs_of_interleaving_created :
    let request : Peers × Event := (.working, .message 7 .createSessionRequest)
    let response : Peers × Event := (.working, .message 7 (.createSessionResponse (some 16)))
    let pushed : Policy.Message := { kind := .reauthorize }
    let replies : Replies :=
      { answers := [some 2001, some 2001]
        outcomes := [.entered (.waiting .createSession), .entered .operational] }
    let mixed := attached.runInputs (.ofSeconds 3) {}
      [.inr request, .inl (metering [10]), .inr response, .inl pushed]
    let apart := attached.runInputs (.ofSeconds 3) {}
      [.inl (metering [10]), .inl pushed, .inr request, .inr response]
    (∃ s, mixed.result = .ok (replies, s) ∧ apart.result = .ok (replies, s)) ∧
      mixed.run.calls.filter (·.isRoaming) = apart.run.calls.filter (·.isRoaming) ∧
      mixed.run.calls ≠ apart.run.calls := by
  intro request response pushed replies mixed apart
  obtain ⟨s, hs⟩ : ∃ s, apart.result = .ok (replies, s) := ⟨_, rfl⟩
  obtain ⟨hresult, hcalls⟩ := runInputs_of_interleaving (.ofSeconds 3) {} attached
    [metering [10], pushed] [request, response]
    [.inr request, .inl (metering [10]), .inr response, .inl pushed] rfl rfl
  have hmixed : mixed.result = .ok (replies, s) := hresult.trans hs
  exact ⟨⟨s, hmixed, hs⟩, (hcalls ⟨_, hmixed⟩).1, by decide +kernel⟩

end Session

end SessionControl
