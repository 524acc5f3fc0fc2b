import SessionControl.Proofs.Controller.Run

/-!
# Session control does not see the replica

Two controllers that differ in their replicas, in the settings of those and in the name that is
shown there give the same answers to the same requests. The two may have different stores; one may
be connected and the other not; and any write to either may fail.

## Main definitions

- `Controller.Reply`, `Controller.answer` — an operation with what is answered to it
- `Controller.Request`, `Controller.serveAll` — everything that a controller is asked for
- `Traced.Alike` — computations with related values and the same calls apart from those of replicas
- `Controller.Twins` — only the replicas tell the controllers apart

## Main statements

- `Controller.perform_eq` — performing an operation is answering it
- `Controller.Twins.serve` — twins answer a request alike, and are twins afterwards
- `Controller.serveAll_congr` — twins answer all requests alike, with the same sessions all the time
-/

namespace SessionControl

open Attempt

/-- A call to the store of the replica. -/
def Call.isReplica : Call → Bool
  | connect _ _ | set _ _ | delete _ | disconnect => true
  | userPlane _ _ _ | commit _ _ | startTimer _ _ | stopTimer _ | bind _ => false

/-! ## Computations that differ in replicas -/

namespace Traced

variable {α β γ δ : Type} {R : α → β → Prop} {S : γ → δ → Prop}

/-- The values are related, and the calls are the same apart from those to the stores of
replicas. -/
structure Alike (R : α → β → Prop) (x : Traced α) (y : Traced β) : Prop where
  value : R x.value y.value
  calls : x.calls.filter (!·.isReplica) = y.calls.filter (!·.isReplica)

namespace Alike

protected theorem pure {a : α} {b : β} (h : R a b) : (pure a : Traced α).Alike R (pure b) :=
  ⟨h, rfl⟩

protected theorem refl (x : Traced α) : x.Alike Eq x :=
  ⟨rfl, rfl⟩

protected theorem bind {x : Traced α} {y : Traced β} {f : α → Traced γ} {g : β → Traced δ}
    (h : x.Alike R y) (hf : ∀ a b, R a b → (f a).Alike S (g b)) : (x >>= f).Alike S (y >>= g) where
  value := (hf _ _ h.value).value
  calls := by
    rw [calls_bind, calls_bind, List.filter_append, List.filter_append, h.calls,
      (hf _ _ h.value).calls]

/-- Computations that call nothing but the stores of replicas are alike, whatever comes of them. -/
theorem of_isReplica {x : Traced α} {y : Traced β} (hx : ∀ call ∈ x.calls, call.isReplica)
    (hy : ∀ call ∈ y.calls, call.isReplica) : x.Alike (fun _ _ => True) y where
  value := trivial
  calls := by
    have hnone : ∀ {calls : List Call}, (∀ call ∈ calls, call.isReplica) →
        calls.filter (!·.isReplica) = [] := by
      intro calls hcalls
      refine List.filter_eq_nil_iff.mpr fun call hcall => ?_
      rw [hcalls call hcall]
      exact Bool.false_ne_true
    rw [hnone hx, hnone hy]

end Alike

end Traced

namespace Attempt

variable {α β γ δ : Type} {R : α → β → Prop} {S : γ → δ → Prop}

/-- Two attempts both succeed, with related results, or both end in the same fault. -/
inductive Matches (R : α → β → Prop) : Except Fault α → Except Fault β → Prop
  | ok {a : α} {b : β} (h : R a b) : Matches R (.ok a) (.ok b)
  | error (fault : Fault) : Matches R (.error fault) (.error fault)

theorem Matches.map_eq {x : Except Fault α} {y : Except Fault β} (h : Matches R x y) {f : α → γ}
    {g : β → γ} (hfg : ∀ a b, R a b → f a = g b) : x.map f = y.map g := by
  cases h with
  | ok hab => exact congrArg Except.ok (hfg _ _ hab)
  | error fault => rfl

theorem alike_pure {a : α} {b : β} (h : R a b) :
    (pure a : Attempt α).run.Alike (Matches R) (pure b : Attempt β).run :=
  .pure (.ok h)

theorem alike_lift {x : Traced α} {y : Traced β} (h : x.Alike R y) :
    (liftM x : Attempt α).run.Alike (Matches R) (liftM y : Attempt β).run :=
  h.bind fun _ _ hab => .pure (.ok hab)

theorem alike_refl (x : Attempt α) : x.run.Alike (Matches Eq) x.run where
  value := by
    cases x.run.value with
    | ok a => exact .ok rfl
    | error fault => exact .error fault
  calls := rfl

theorem alike_bind {x : Attempt α} {y : Attempt β} {f : α → Attempt γ} {g : β → Attempt δ}
    (h : x.run.Alike (Matches R) y.run)
    (hf : ∀ a b, R a b → (f a).run.Alike (Matches S) (g b).run) :
    (x >>= f).run.Alike (Matches S) (y >>= g).run := by
  refine Traced.Alike.bind h ?_
  rintro _ _ (hab | fault)
  · exact hf _ _ hab
  · exact .pure (.error fault)

end Attempt

/-! ## Calls of a replica -/

namespace Replica

variable {σ : Type}

theorem calls_afterWrite (r : Replica σ) (key : String) (result : Except StoreError Unit) :
    (r.afterWrite key result).calls = [] := by
  cases result <;> rfl

theorem isReplica_of_whenReady {r : Replica σ} {write : Traced (Replica σ)}
    (hwrite : ∀ call ∈ write.calls, call.isReplica) :
    ∀ call ∈ (r.whenReady write).calls, call.isReplica := by
  unfold whenReady
  split
  · exact hwrite
  · split <;> simp

variable [KeyValueStore σ]

theorem isReplica_of_update (r : Replica σ) (s : Session) (node : String) :
    ∀ call ∈ (r.update s node).calls, call.isReplica :=
  isReplica_of_whenReady (by simp [calls_afterWrite, Call.isReplica])

theorem isReplica_of_remove (r : Replica σ) (s : Session) :
    ∀ call ∈ (r.remove s).calls, call.isReplica :=
  isReplica_of_whenReady (by simp [calls_afterWrite, Call.isReplica])

theorem isReplica_of_connect (r : Replica σ) : ∀ call ∈ r.connect.calls, call.isReplica := by
  unfold connect
  split
  · rw [Traced.calls_bind]
    dsimp only
    split <;> simp [Call.isReplica]
  · simp

theorem isReplica_of_reconnect (r : Replica σ) : ∀ call ∈ r.reconnect.calls, call.isReplica := by
  unfold reconnect
  split
  · rw [Traced.calls_bind]
    intro call hcall
    obtain hcall | hcall := List.mem_append.mp hcall
    · rw [List.mem_singleton.mp hcall]
      rfl
    · exact isReplica_of_connect _ call hcall
  · simp

theorem isReplica_of_disconnect (r : Replica σ) : ∀ call ∈ r.disconnect.calls, call.isReplica := by
  unfold disconnect
  split <;> simp [Call.isReplica]

end Replica

namespace Session

/-- A message of the policy server does not read the name of the node or the settings of the
replica. -/
theorem handlePolicyWith_congr {config config' : Config}
    (h : { config with name := config'.name, replica := config'.replica } = config')
    (s : Session) (m : Policy.Message) (bind : Session → Attempt Session) :
    s.handlePolicyWith config m bind = s.handlePolicyWith config' m bind := by
  rw [← h]
  rfl

end Session

namespace Controller

variable {σ σ' : Type} [KeyValueStore σ] [KeyValueStore σ']

/-! ## Requests and replies -/

/-- What is answered to a request. -/
inductive Reply where
  /-- The session that was added, removed or looked for, if there is one. -/
  | session (s : Option Session)
  | outcome (outcome : Except SessionError Roaming.Outcome)
  | code (code : Except SessionError (Option UInt32))
  /-- Nothing but that the request has been carried out. -/
  | done

/-- Performs an operation and gives what is answered to it. -/
def answer (c : Controller σ) : Operation → Attempt (Reply × Controller σ)
  | .add imsi name => do
    let (s, c) ← c.addSession imsi name
    pure (.session (some s), c)
  | .remove id => do
    let (s, c) ← c.removeSession id
    pure (.session s, c)
  | .dispatch id peers event => do
    let (outcome, c) ← c.dispatch id peers event
    pure (.outcome outcome, c)
  | .handlePolicy id m bind => do
    let (code, c) ← c.handlePolicy id m bind
    pure (.code code, c)
  | .removeAll => do
    let c ← c.removeAll
    pure (.done, c)

theorem perform_eq (c : Controller σ) (op : Operation) :
    c.perform op = Prod.snd <$> c.answer op := by
  cases op <;> simp [perform, answer]

/-- Everything that a controller is asked for: its operations, to look for a session, and to
connect and disconnect its replica. -/
inductive Request where
  | operation (op : Operation)
  | find (id : UInt64)
  | connect
  | reconnect
  | disconnect

def serve (c : Controller σ) : Request → Attempt (Reply × Controller σ)
  | .operation op => c.answer op
  | .find id => pure (.session (c.table.find? id), c)
  | .connect => do
    let replica ← c.replica.connect
    pure (.done, { c with replica })
  | .reconnect => do
    let replica ← c.replica.reconnect
    pure (.done, { c with replica })
  | .disconnect => do
    let replica ← c.replica.disconnect
    pure (.done, { c with replica })

/-- Serves a list of requests, up to one that ends in a fault. Gives each reply with the session
table right after it. -/
def serveAll (c : Controller σ) :
    List Request → Attempt (List (Reply × SessionTable) × Controller σ)
  | [] => pure ([], c)
  | request :: requests => do
    let (reply, c) ← c.serve request
    let (replies, last) ← serveAll c requests
    pure ((reply, c.table) :: replies, last)

/-! ## Twins -/

/-- Only the replicas tell the controllers apart, with their settings and the name that is shown
in them. -/
structure Twins (c : Controller σ) (c' : Controller σ') : Prop where
  config : { c.config with name := c'.config.name, replica := c'.config.replica } = c'.config
  timer : c.timer = c'.timer
  table : c.table = c'.table

/-- Replies are the same, and the controllers that gave them are twins. -/
def Agree {α : Type} (x : α × Controller σ) (y : α × Controller σ') : Prop :=
  x.1 = y.1 ∧ x.2.Twins y.2

namespace Twins

variable {c : Controller σ} {c' : Controller σ'}

omit [KeyValueStore σ] [KeyValueStore σ'] in
theorem put (h : c.Twins c') (r : Replica σ) (r' : Replica σ') (t : SessionTable) :
    Twins { c with replica := r, table := t } { c' with replica := r', table := t } :=
  ⟨h.config, h.timer, rfl⟩

theorem addSession (h : c.Twins c') (imsi : String) (name : Option String) :
    (c.addSession imsi name).Alike Agree (c'.addSession imsi name) := by
  rw [Controller.addSession, Controller.addSession, h.table]
  refine (Traced.Alike.refl _).bind ?_
  rintro s _ rfl
  refine (Traced.Alike.refl _).bind ?_
  rintro _ _ -
  refine (Traced.Alike.of_isReplica (Replica.isReplica_of_update _ _ _)
    (Replica.isReplica_of_update _ _ _)).bind ?_
  exact fun r r' _ => .pure ⟨rfl, h.put r r' _⟩

theorem removeSession (h : c.Twins c') (id : UInt64) :
    (c.removeSession id).Alike Agree (c'.removeSession id) := by
  rw [Controller.removeSession, Controller.removeSession, h.table]
  cases c'.table.find? id with
  | none => exact .pure ⟨rfl, h⟩
  | some s =>
    refine (Traced.Alike.refl _).bind ?_
    rintro _ _ -
    refine (Traced.Alike.of_isReplica (Replica.isReplica_of_remove _ _)
      (Replica.isReplica_of_remove _ _)).bind ?_
    exact fun r r' _ => .pure ⟨rfl, h.put r r' _⟩

theorem removeEach (h : c.Twins c') (ids : List UInt64) :
    (Controller.removeEach ids c).Alike Twins (Controller.removeEach ids c') := by
  induction ids generalizing c c' with
  | nil => exact .pure h
  | cons id ids ih => exact (h.removeSession id).bind fun x y hxy => ih hxy.2

theorem settle (h : c.Twins c') (id : UInt64) (s : Session) :
    (c.settle id s).Alike Twins (c'.settle id s) := by
  have hput :
      Twins { c with table := c.table.put id s } { c' with table := c'.table.put id s } := by
    rw [h.table]
    exact h.put _ _ _
  unfold Controller.settle
  dsimp only
  split
  · exact (hput.removeSession id).bind fun x y hxy => .pure hxy.2
  · refine (Traced.Alike.of_isReplica (Replica.isReplica_of_update _ _ _)
      (Replica.isReplica_of_update _ _ _)).bind ?_
    exact fun r r' _ => .pure ⟨hput.config, hput.timer, hput.table⟩

theorem dispatch (h : c.Twins c') (id : UInt64) (peers : Peers) (event : Roaming.Event) :
    (c.dispatch id peers event).Alike Agree (c'.dispatch id peers event) := by
  rw [Controller.dispatch, Controller.dispatch, h.table, h.timer]
  cases c'.table.find? id with
  | none => exact .pure ⟨rfl, h⟩
  | some s =>
    refine (Traced.Alike.refl _).bind ?_
    rintro ⟨outcome, s'⟩ _ rfl
    exact (h.settle id s').bind fun _ _ hsettled => .pure ⟨rfl, hsettled⟩

omit [KeyValueStore σ] [KeyValueStore σ'] in
theorem handlePolicy (h : c.Twins c') (id : UInt64) (m : Policy.Message)
    (bind : Session → Attempt Session) :
    (c.handlePolicy id m bind).run.Alike (Matches Agree) (c'.handlePolicy id m bind).run := by
  rw [Controller.handlePolicy, Controller.handlePolicy, h.table]
  cases c'.table.find? id with
  | none => exact alike_pure ⟨rfl, h⟩
  | some s =>
    -- The engine gets the same session on both sides, so it does the same.
    dsimp only
    rw [s.handlePolicyWith_congr h.config]
    refine alike_bind (alike_refl _) ?_
    rintro ⟨code, s'⟩ _ rfl
    exact alike_pure ⟨rfl, h.put c.replica c'.replica _⟩

omit [KeyValueStore σ] [KeyValueStore σ'] in
theorem alike_reply {α : Type} {x : Attempt (α × Controller σ)} {y : Attempt (α × Controller σ')}
    (h : x.run.Alike (Matches Agree) y.run) (reply : α → Reply) :
    (x >>= fun p => (pure (reply p.1, p.2) : Attempt _)).run.Alike (Matches Agree)
      (y >>= fun p => (pure (reply p.1, p.2) : Attempt _)).run :=
  alike_bind h fun _ _ hagree => alike_pure ⟨congrArg reply hagree.1, hagree.2⟩

theorem answer (h : c.Twins c') (op : Operation) :
    (c.answer op).run.Alike (Matches Agree) (c'.answer op).run := by
  cases op with
  | add imsi name => exact alike_reply (alike_lift (h.addSession imsi name)) fun s => .session s
  | remove id => exact alike_reply (alike_lift (h.removeSession id)) .session
  | dispatch id peers event =>
    exact alike_reply (alike_lift (h.dispatch id peers event)) .outcome
  | handlePolicy id m bind => exact alike_reply (h.handlePolicy id m bind) .code
  | removeAll =>
    have hall : c.removeAll.Alike Twins c'.removeAll := by
      rw [Controller.removeAll, Controller.removeAll, h.table]
      exact h.removeEach _
    exact alike_bind (alike_lift hall) fun c₁ c₁' h₁ => alike_pure ⟨rfl, h₁⟩

theorem serve (h : c.Twins c') (request : Request) :
    (c.serve request).run.Alike (Matches Agree) (c'.serve request).run := by
  -- Whatever comes of the two replicas, nothing else of the controllers changes.
  have hreplica : ∀ {x : Traced (Replica σ)} {y : Traced (Replica σ')},
      (∀ call ∈ x.calls, call.isReplica) → (∀ call ∈ y.calls, call.isReplica) →
      ((liftM x : Attempt _) >>= fun r =>
        (pure (Reply.done, { c with replica := r }) : Attempt _)).run.Alike (Matches Agree)
      ((liftM y : Attempt _) >>= fun r =>
        (pure (Reply.done, { c' with replica := r }) : Attempt _)).run := by
    intro x y hx hy
    refine alike_bind (alike_lift (.of_isReplica hx hy)) fun r r' _ => ?_
    exact alike_pure ⟨rfl, h.config, h.timer, h.table⟩
  cases request with
  | operation op => exact h.answer op
  | find id => exact alike_pure ⟨by rw [h.table], h⟩
  | connect => exact hreplica c.replica.isReplica_of_connect c'.replica.isReplica_of_connect
  | reconnect => exact hreplica c.replica.isReplica_of_reconnect c'.replica.isReplica_of_reconnect
  | disconnect =>
    exact hreplica c.replica.isReplica_of_disconnect c'.replica.isReplica_of_disconnect

theorem serveAll (h : c.Twins c') (requests : List Request) :
    (c.serveAll requests).run.Alike (Matches Agree) (c'.serveAll requests).run := by
  induction requests generalizing c c' with
  | nil => exact alike_pure ⟨rfl, h⟩
  | cons request requests ih =>
    refine alike_bind (h.serve request) ?_
    rintro ⟨reply, c₁⟩ ⟨_, c₁'⟩ ⟨rfl, h₁⟩
    refine alike_bind (ih h₁) ?_
    rintro ⟨replies, last⟩ ⟨_, last'⟩ ⟨rfl, hlast⟩
    exact alike_pure ⟨by rw [h₁.table], hlast⟩

end Twins

/-- Session control does not see the replica. Take two controllers with the same sessions, the same
timer and the same settings but for those of the replica and the name of the node. Their replicas
may be anything: used or not, connected or not, over any two stores, which may refuse any connection
and fail any write. The same requests, among them those to connect and disconnect the replicas, get
the same replies from both, or end in the same fault; the session tables are the same after each of
the requests; and the same calls are made in the same order, apart from those to the stores. What
the engine that binds pushed rules does with a session is part of the request and may be anything:
an engine with a memory gets the same sessions on both sides, so it remembers the same. -/
theorem serveAll_congr (c : Controller σ) (c' : Controller σ') (htable : c.table = c'.table)
    (htimer : c.timer = c'.timer)
    (hconfig : { c.config with name := c'.config.name, replica := c'.config.replica } = c'.config)
    (requests : List Request) :
    (c.serveAll requests).result.map Prod.fst = (c'.serveAll requests).result.map Prod.fst ∧
      (c.serveAll requests).run.calls.filter (!·.isReplica) =
        (c'.serveAll requests).run.calls.filter (!·.isReplica) := by
  have htwins : c.Twins c' := ⟨hconfig, htimer, htable⟩
  obtain ⟨hvalue, hcalls⟩ := htwins.serveAll requests
  exact ⟨Matches.map_eq hvalue fun x y hagree => hagree.1, hcalls⟩

/-- One replica is never used. The other one connects and loses its connection whenever a record is
written or deleted. An engine takes up rules of the session, and says so to the user plane. -/
theorem serveAll_congr_failing :
    let c : Controller OfflineStore := .new {} {}
    let c' : Controller MemoryStore := .new { name := "watched", replica := { enabled := true } }
      { failure := some (.backend "disk full") }
    let requests : List Request := [.connect, .operation (.add "001010000000001" (some "internet")),
      .operation (.dispatch 1 .working (.message 7 .createSessionRequest)), .reconnect,
      .operation (pushing 1), .find 1, .operation (.remove 1)]
    (∃ replies, (c.serveAll requests).result.map Prod.fst = .ok replies ∧
      (c'.serveAll requests).result.map Prod.fst = .ok replies ∧ replies.length = 7) ∧
    (c.serveAll requests).run.calls.filter (!·.isReplica) =
      (c'.serveAll requests).run.calls.filter (!·.isReplica) ∧
    (c.serveAll requests).run.calls.countP (·.isReplica) = 0 ∧
    (c'.serveAll requests).run.calls.countP (·.isReplica) = 5 := by
  intro c c' requests
  obtain ⟨hreplies, hcalls⟩ := serveAll_congr c c' rfl rfl rfl requests
  obtain ⟨replies, hok⟩ : ∃ replies,
      (c.serveAll requests).result.map Prod.fst = .ok replies ∧ replies.length = 7 := ⟨_, rfl, rfl⟩
  exact ⟨⟨replies, hok.1, hreplies ▸ hok.1, hok.2⟩, hcalls, by decide +kernel, by decide +kernel⟩

end Controller

end SessionControl
