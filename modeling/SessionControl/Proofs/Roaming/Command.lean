import SessionControl.Proofs.Roaming.Calls
import SessionControl.Proofs.Roaming.Transaction

/-!
# Bearer resource commands

A bearer resource command is answered by a failure indication that carries the accepted cause. The
indication comes last: the command is left without an answer if it names a linked bearer and the
user plane could not be modified for it. Nothing else makes a session send an indication, so the
indications of a run are the answers to the commands that were carried out.

## Main definitions

- `Roaming.Command` — a bearer resource command that is handled
- `Session.commands` — the commands that are handled in a run

## Main statements

- `Session.served_command` — what is done for a command
- `Session.indications_traceEvents` — the indications sent in a run
- `Session.answers_iff_of_run` — when the commands of a run are answered
- `Session.not_forall_answers` — a command that is not
-/

namespace SessionControl

/-- A message to the peer. -/
def Call.isCommit : Call → Bool
  | .commit .. => true
  | .userPlane .. | .startTimer .. | .stopTimer .. | .bind .. | .connect .. | .set .. | .delete ..
  | .disconnect => false

/-- A failure indication to the peer. -/
def Call.isIndication : Call → Bool
  | .commit _ (.bearerResourceFailureIndication _) => true
  | _ => false

theorem Call.isSignalling_of_isIndication {c : Call} (h : c.isIndication) : c.isSignalling := by
  cases c <;> first | rfl | cases h

namespace Roaming

/-- A bearer resource command that is handled, with the answers of the collaborators to it. -/
structure Command where
  transaction : UInt64
  linkedBearer : Option UInt8
  peers : Peers

namespace Command

/-- The user plane is not asked for anything, or it does what it is asked. -/
def isCarriedOut (c : Command) : Bool :=
  c.linkedBearer.isNone || (c.peers.userPlane .modify).isOk

/-- The message that answers a command. -/
def answer (c : Command) : Call :=
  .commit c.transaction (.bearerResourceFailureIndication (some 16))

theorem isCarriedOut_iff {c : Command} :
    c.isCarriedOut ↔ c.linkedBearer = none ∨ c.peers.userPlane .modify = .ok () := by
  cases h : c.peers.userPlane .modify with
  | error e => simp [isCarriedOut, h, Except.isOk, Except.toBool]
  | ok u => simp [isCarriedOut, h, Except.isOk, Except.toBool]

end Command

/-- Serving a request sends no failure indication. -/
theorem Served.not_isIndication {peers : Peers} {imsi : String} {machine : Machine} {id : UInt64}
    {p : Procedure} {cause : Option UInt8} {request : Option UserPlaneRequest} {calls : List Call}
    {result : Except SessionError Unit}
    (h : Served peers imsi machine id (p.response cause) request calls result) :
    ∀ c ∈ calls, c.isIndication = false := by
  cases h <;> cases p <;> simp [Call.isIndication, Procedure.response]

/-- If the user plane fails, that is the error of the message. -/
theorem Served.eq_error_of_userPlane {peers : Peers} {imsi : String} {machine : Machine}
    {id : UInt64} {m : Message} {r : UserPlaneRequest} {calls : List Call}
    {result : Except SessionError Unit} {error : SessionError}
    (h : Served peers imsi machine id m (some r) calls result)
    (herror : peers.userPlane r = .error error) : result = .error error := by
  cases h with
  | refused hr => rw [← hr, herror]
  | carriedOut hr =>
    rw [hr] at herror
    cases herror

/-- Among the calls for a command are those to the user plane and, if it is carried out, the one
answer. -/
theorem Command.filter_of_served {c : Command} {imsi : String} {machine : Machine}
    {calls : List Call} {result : Except SessionError Unit} {q : Call → Bool}
    (h : Served c.peers imsi machine c.transaction (.bearerResourceFailureIndication (some 16))
      (c.linkedBearer.map fun _ => .modify) calls result)
    (hanswer : q c.answer = true)
    (hplane : ∀ r imsi machine, q (.userPlane r imsi machine) = false) :
    calls.filter q = ([c].filter isCarriedOut).map answer := by
  rw [answer] at hanswer
  cases hbearer : c.linkedBearer with
  | none =>
    rw [hbearer, Option.map_none] at h
    cases h with
    | nothingAsked => simp [isCarriedOut, hbearer, hanswer, answer]
  | some b =>
    rw [hbearer, Option.map_some] at h
    cases h with
    | refused hr => simp [isCarriedOut, hbearer, hr, hplane, Except.isOk, Except.toBool]
    | carriedOut hr =>
      simp [isCarriedOut, hbearer, hr, hplane, hanswer, answer, Except.isOk, Except.toBool]

end Roaming

namespace Session

open Roaming (Command Event Machine Operation ResponseTimer Served)

variable {timer : ResponseTimer} {peers : Peers} {s : Session}

/-! ## One command -/

/-- A command is handled without a transaction of its own, and it is answered unless the user plane
fails. -/
theorem served_command (hs : s.state = .initial ∨ s.state = .operational) (timer : ResponseTimer)
    (peers : Peers) (id : UInt64) (linkedBearer : Option UInt8) :
    ∃ result,
      Served peers s.imsi { s.machine with state := .operational } id
        (.bearerResourceFailureIndication (some 16)) (linkedBearer.map fun _ => .modify)
        (s.dispatch timer peers (.message id (.bearerResourceCommand linkedBearer))).calls result ∧
      (s.dispatch timer peers (.message id (.bearerResourceCommand linkedBearer))).value =
        (.ofResult .operational .operational result,
          { s with machine := { s.machine with state := .operational } }) := by
  have hopen : Roaming.transition s.state (.message id (.bearerResourceCommand linkedBearer))
      s.machine.transaction = (.operational, .resourceCommand linkedBearer) := by
    rcases hs with hs | hs <;> rw [hs] <;> rfl
  have hbegun : s.begun = { s with machine := { s.machine with state := .operational } } := by
    rw [begun_eq, begun_state_of_open hs]
  have hserved := Roaming.served_handleCommand peers s.begun id linkedBearer
  refine ⟨(Roaming.handleCommand peers s.begun id linkedBearer).run.value, ?_, ?_⟩
  · have hcalls : (s.dispatch timer peers (.message id (.bearerResourceCommand linkedBearer))).calls =
        (Roaming.handleCommand peers s.begun id linkedBearer).run.calls := by
      rw [calls_dispatch, hopen]
      exact List.append_nil _
    rw [hcalls]
    rw [hbegun] at hserved ⊢
    exact hserved
  · refine Prod.ext ?_ ?_
    · rw [outcome_dispatch, hopen, begun_state_of_open hs]
      rfl
    · rw [session_dispatch, Machine.step]
      simp only [state] at hopen
      rw [hopen]
      rfl

/-- Only a command that is handled makes a session send a failure indication. -/
theorem command_of_isIndication {e : Event} {c : Call} (hc : c ∈ (s.dispatch timer peers e).calls)
    (hindication : c.isIndication) :
    (s.state = .initial ∨ s.state = .operational) ∧
      ∃ id linkedBearer, e = .message id (.bearerResourceCommand linkedBearer) := by
  obtain ⟨hs, id, m, rfl, hrequest | ⟨linkedBearer, rfl⟩⟩ :=
    open_of_isSignalling hc (Call.isSignalling_of_isIndication hindication)
  · -- A request is answered by the response of its procedure.
    exfalso
    obtain ⟨p, hp⟩ := Option.isSome_iff_exists.mp hrequest
    obtain ⟨calls, result, hserved, hcalls, -, -⟩ := served_dispatch hp hs timer peers
    rw [hcalls, List.mem_append] at hc
    rcases hc with hc | hc
    · rw [hserved.not_isIndication c hc] at hindication
      exact Bool.false_ne_true hindication
    · have hsilent := Roaming.Action.not_isSignalling_of_timerCalls timer s.machine id
        .createSession c hc
      rw [Call.isSignalling_of_isIndication hindication] at hsilent
      exact Bool.false_ne_true hsilent.symm
  · exact ⟨hs, id, linkedBearer, rfl⟩

/-- The command that an event is, if the session handles it. -/
def command? (s : Session) (x : Peers × Event) : Option Command :=
  match x with
  | (peers, .message transaction (.bearerResourceCommand linkedBearer)) =>
    if s.state = .initial ∨ s.state = .operational then some { transaction, linkedBearer, peers }
    else none
  | _ => none

theorem command?_eq_some_iff {x : Peers × Event} {c : Command} :
    s.command? x = some c ↔ (s.state = .initial ∨ s.state = .operational) ∧
      x = (c.peers, .message c.transaction (.bearerResourceCommand c.linkedBearer)) := by
  constructor
  · intro h
    unfold command? at h
    split at h
    · split at h
      next hs =>
        cases h
        exact ⟨hs, rfl⟩
      · cases h
    · cases h
  · rintro ⟨hs, rfl⟩
    exact if_pos hs

/-- The failure indications sent for an event are the answers to commands carried out. -/
theorem indications_dispatch (s : Session) (timer : ResponseTimer) (x : Peers × Event) :
    (s.dispatch timer x.1 x.2).calls.filter Call.isIndication =
      ((s.command? x).toList.filter Command.isCarriedOut).map Command.answer := by
  cases hcommand : s.command? x with
  | some c =>
    obtain ⟨hs, rfl⟩ := command?_eq_some_iff.mp hcommand
    obtain ⟨result, hserved, -⟩ := served_command hs timer c.peers c.transaction c.linkedBearer
    exact Command.filter_of_served hserved rfl fun _ _ _ => rfl
  | none =>
    refine List.filter_eq_nil_iff.mpr fun c hc hindication => ?_
    obtain ⟨hs, transaction, linkedBearer, he⟩ := command_of_isIndication hc hindication
    have hsome : s.command? x = some { transaction, linkedBearer, peers := x.1 } :=
      command?_eq_some_iff.mpr ⟨hs, Prod.ext rfl he⟩
    rw [hcommand] at hsome
    cases hsome

/-! ## Runs -/

/-- The commands that are handled in a run. -/
def commands (timer : ResponseTimer) : Session → List (Peers × Event) → List Command
  | _, [] => []
  | s, x :: es => (s.command? x).toList ++ commands timer (s.dispatch timer x.1 x.2).value.2 es

/-- The failure indications sent in a run are the answers to the commands carried out, in order. -/
theorem indications_traceEvents (timer : ResponseTimer) (s : Session) (es : List (Peers × Event)) :
    (s.traceEvents timer es).calls.filter Call.isIndication =
      ((s.commands timer es).filter Command.isCarriedOut).map Command.answer := by
  induction es generalizing s with
  | nil => rfl
  | cons x es ih =>
    rw [calls_traceEvents_cons, List.filter_append, indications_dispatch, ih, commands,
      List.filter_append, List.map_append]

/-- A bearer resource command that arrives while no response is awaited is answered by exactly one
message, a failure indication with cause 16 on its own transaction, if and only if it names no
linked bearer or the user plane is modified for it. If that fails, nothing is sent to the peer and
the caller learns the error. No command opens a transaction or starts a timer. In a run, the
indications sent are the answers to the commands carried out, so there are as many of them as
commands exactly if all commands are carried out. -/
theorem answers_iff_of_run (timer : ResponseTimer) (s : Session) (es : List (Peers × Event)) :
    (∀ before (c : Command),
      let now := s.runEvents timer before
      let step := now.dispatch timer c.peers
        (.message c.transaction (.bearerResourceCommand c.linkedBearer))
      now.state = .initial ∨ now.state = .operational →
      (step.calls.filter Call.isCommit =
          [.commit c.transaction (.bearerResourceFailureIndication (some 16))] ↔
        c.linkedBearer = none ∨ c.peers.userPlane .modify = .ok ()) ∧
      (∀ error, c.linkedBearer ≠ none → c.peers.userPlane .modify = .error error →
        step.calls.filter Call.isCommit = [] ∧ step.value.1 = .failed .operational error) ∧
      (∀ k ∈ step.calls, k.isSignalling) ∧
      step.value.2.machine = { now.machine with state := .operational }) ∧
    (s.traceEvents timer es).calls.filter Call.isIndication =
      ((s.commands timer es).filter Command.isCarriedOut).map Command.answer ∧
    ((s.traceEvents timer es).calls.countP Call.isIndication = (s.commands timer es).length ↔
      ∀ c ∈ s.commands timer es, c.linkedBearer = none ∨ c.peers.userPlane .modify = .ok ()) := by
  refine ⟨?_, indications_traceEvents timer s es, ?_⟩
  · intro before c now step hs
    obtain ⟨result, hserved, hvalue⟩ :=
      served_command hs timer c.peers c.transaction c.linkedBearer
    have hcommits : step.calls.filter Call.isCommit =
        ([c].filter Command.isCarriedOut).map Command.answer :=
      Command.filter_of_served hserved rfl fun _ _ _ => rfl
    refine ⟨?_, ?_, hserved.isSignalling, ?_⟩
    · rw [hcommits, ← Command.isCarriedOut_iff]
      cases hc : c.isCarriedOut with
      | true => simp [hc, Command.answer]
      | false => simp [hc]
    · intro error hlinked herror
      have hc : ¬c.isCarriedOut := by simp [Command.isCarriedOut_iff, hlinked, herror]
      refine ⟨by rw [hcommits]; simp [hc], ?_⟩
      obtain ⟨b, hb⟩ := Option.ne_none_iff_exists'.mp hlinked
      rw [hb, Option.map_some] at hserved
      rw [hvalue, hserved.eq_error_of_userPlane herror]
      rfl
    · rw [hvalue]
  · rw [List.countP_eq_length_filter, indications_traceEvents, List.length_map,
      List.length_filter_eq_length_iff]
    exact forall₂_congr fun c _ => Command.isCarriedOut_iff

/-- Of three commands the second one finds no user plane, and it is the only one without an answer. -/
theorem answers_iff_of_run_unassociated :
    let s := Session.new 1 1 "001010000000001" (some "internet")
    let first : Command := { transaction := 7, linkedBearer := none, peers := .working }
    let second : Command :=
      { transaction := 9, linkedBearer := some 5, peers := .failing (some "no association") none }
    let third : Command := { transaction := 11, linkedBearer := some 5, peers := .working }
    let es := [first, second, third].map fun c =>
      (c.peers, Event.message c.transaction (.bearerResourceCommand c.linkedBearer))
    s.commands (.ofSeconds 3) es = [first, second, third] ∧
    (s.traceEvents (.ofSeconds 3) es).calls.filter Call.isIndication =
      [first.answer, third.answer] ∧
    (s.traceEvents (.ofSeconds 3) es).calls.countP Call.isIndication ≠
      (s.commands (.ofSeconds 3) es).length ∧
    ((s.dispatch (.ofSeconds 3) first.peers (.message 7 (.bearerResourceCommand none))).calls.filter
      Call.isCommit) = [first.answer] := by
  intro s first second third es
  obtain ⟨hcommand, hindications, hcount⟩ := answers_iff_of_run (.ofSeconds 3) s es
  have hcommands : s.commands (.ofSeconds 3) es = [first, second, third] := rfl
  rw [hcommands] at hindications hcount
  refine ⟨hcommands, hindications, fun h => ?_, ?_⟩
  · have hsecond := hcount.mp h second (by simp)
    simp [second, Peers.failing] at hsecond
  · exact ((hcommand [] first (.inl rfl)).1).mpr (.inl rfl)

/-- It is not so that a session that can be reached answers all commands that it handles. -/
theorem not_forall_answers :
    ¬∀ (timer : ResponseTimer) (id : UInt64) (index : UInt32) (imsi : String)
      (name : Option String) (ops : List Operation) (s : Session) (es : List (Peers × Event)),
      (Session.new id index imsi name).Reaches timer ops s →
      (s.traceEvents timer es).calls.countP Call.isIndication =
        (s.commands timer es).length := by
  intro hall
  have hcount := hall {} 1 1 "001010000000001" (some "internet") [.start] _
    [(.failing (some "no association") none, .message 9 (.bearerResourceCommand (some 5)))]
    (Reaches.refl.start rfl)
  revert hcount
  decide

end Session

end SessionControl
