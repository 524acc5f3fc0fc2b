import SessionControl.Proofs.Controller.Lifecycle
import SessionControl.Proofs.Controller.Unobserved

/-!
# Sessions do not interfere

An operation about one session reads and writes that session only. So it leaves all others as they
are, and the operations about different sessions may take turns in any order.

## Main definitions

- `SessionTable.assign` — the table with what an operation has left of a session
- `Controller.Operation.Handles` — what an operation makes of the session it is about
- `Controller.Run` — what a list of operations makes of a table
- `Controller.answerAll` — a list of operations with what is answered to them

## Main statements

- `SessionTable.assign_comm` — assignments to different numbers change places
- `Controller.handles_of_answer`, `Controller.answer_of_handles` — an operation of a controller
  comes to what it makes of its session
- `Controller.Run.insert` — an operation moves behind those about other sessions
- `Controller.isolated_of_answerAll` — sessions do not interfere
-/

namespace SessionControl

open Attempt

/-! ## Writing to the table -/

namespace SessionTable

variable {t : SessionTable} {a b id : UInt64}

/-- The table with a session replaced by what is left of it. -/
def assign (t : SessionTable) (id : UInt64) : Option Session → SessionTable
  | some s => t.put id s
  | none => t.erase id

theorem find?_assign_of_ne (h : b ≠ a) (t : SessionTable) (x : Option Session) :
    (t.assign a x).find? b = t.find? b := by
  cases x with
  | none => exact (t.find?_erase a b).trans (if_neg h)
  | some s => exact (t.find?_put a b s).trans (if_neg h)

theorem erase_of_find?_eq_none (h : t.find? id = none) : t.erase id = t := by
  rw [erase, List.filter_eq_self.mpr]
  intro e he
  rw [bne_iff_ne]
  intro hid
  exact find?_eq_none_iff.mp h (hid ▸ List.mem_map_of_mem he)

theorem put_put_comm (h : a ≠ b) (t : SessionTable) (s s' : Session) :
    (t.put a s).put b s' = (t.put b s').put a s := by
  simp only [put, List.map_map]
  congr 1
  refine List.map_congr_left fun e _ => ?_
  by_cases ha : e.1 = a
  · have hb : e.1 ≠ b := fun hb => h (ha.symm.trans hb)
    simp [ha, h]
  · by_cases hb : e.1 = b
    · simp [hb, h.symm]
    · simp [ha, hb]

theorem put_erase_comm (t : SessionTable) (a b : UInt64) (s : Session) :
    (t.erase a).put b s = (t.put b s).erase a := by
  simp only [put, erase, List.filter_map]
  congr 2
  refine List.filter_congr fun e _ => ?_
  by_cases hb : e.1 = b
  · simp [hb]
  · simp [hb]

theorem erase_erase_comm (t : SessionTable) (a b : UInt64) :
    (t.erase a).erase b = (t.erase b).erase a := by
  simp only [erase, List.filter_filter]
  congr 2
  funext e
  exact Bool.and_comm _ _

/-- Assignments to different numbers may change places. -/
theorem assign_comm (h : a ≠ b) (t : SessionTable) (x y : Option Session) :
    (t.assign a x).assign b y = (t.assign b y).assign a x := by
  cases x with
  | none =>
    cases y with
    | none => exact t.erase_erase_comm a b
    | some s => exact t.put_erase_comm a b s
  | some s =>
    cases y with
    | none => exact (t.put_erase_comm b a s).symm
    | some s' => exact put_put_comm h t s s'

end SessionTable

namespace Controller

open Roaming (Event Outcome ResponseTimer)

variable {σ : Type} [KeyValueStore σ] {c c' : Controller σ} {timer : ResponseTimer}
  {config : Config} {op : Operation} {operations operations' pre post : List Operation}
  {t t' : SessionTable} {reply : Reply} {log : List (Operation × Reply)} {x : Option Session}
  {id : UInt64}

/-! ## What an operation makes of its session -/

/-- What an operation makes of the session that it is about, if that is in the table: what is
answered, and what is left of the session. -/
inductive Operation.Handles (timer : ResponseTimer) (config : Config) :
    Operation → Option Session → Reply → Option Session → Prop
  | remove (id : UInt64) (s : Option Session) :
      Handles timer config (.remove id) s (.session s) none
  | dispatch (id : UInt64) (peers : Peers) (event : Event) {s s' : Session} {outcome : Outcome}
      (h : (s.dispatch timer peers event).value = (outcome, s')) :
      Handles timer config (.dispatch id peers event) (some s) (.outcome (.ok outcome))
        (if s'.state = .final then none else some s')
  | handlePolicy (id : UInt64) (m : Policy.Message) (bind : Session → Attempt Session)
      {s s' : Session} {code : Option UInt32}
      (h : (s.handlePolicyWith config m bind).result = .ok (code, s')) :
      Handles timer config (.handlePolicy id m bind) (some s) (.code (.ok code)) (some s')
  | dispatch_unknown (id : UInt64) (peers : Peers) (event : Event) :
      Handles timer config (.dispatch id peers event) none (.outcome (.error (.notFound id))) none
  | handlePolicy_unknown (id : UInt64) (m : Policy.Message) (bind : Session → Attempt Session) :
      Handles timer config (.handlePolicy id m bind) none (.code (.error (.notFound id))) none

theorem value_settle_eq_assign {s : Session} (hs : c.table.find? id = some s) (s' : Session) :
    ∃ replica, (c.settle id s').value = { c with
      replica, table := c.table.assign id (if s'.state = .final then none else some s') } := by
  by_cases hfinal : s'.state = .final
  · rw [value_settle_of_final hfinal hs, if_pos hfinal]
    exact ⟨_, rfl⟩
  · rw [value_settle hfinal, if_neg hfinal]
    exact ⟨_, rfl⟩

/-- An operation of a controller writes what it leaves of its session, and nothing else but the
replica. -/
theorem answer_of_handles (htarget : op.target? = some id)
    (h : op.Handles c.timer c.config (c.table.find? id) reply x) :
    ∃ replica, (c.answer op).result =
      .ok (reply, { c with replica, table := c.table.assign id x }) := by
  have hnothing : c.table.find? id = none → c.table.assign id none = c.table :=
    SessionTable.erase_of_find?_eq_none
  generalize hs : c.table.find? id = found at h hnothing
  cases h with
  | remove id' found =>
    obtain rfl : id' = id := Option.some.inj htarget
    cases found with
    | none =>
      refine ⟨c.replica, ?_⟩
      rw [answer, removeSession_of_none hs, hnothing rfl]
      rfl
    | some s =>
      refine ⟨(c.replica.remove s).value, ?_⟩
      rw [answer, removeSession, hs]
      rfl
  | @dispatch id' peers event s s' outcome h =>
    obtain rfl : id' = id := Option.some.inj htarget
    obtain ⟨replica, hsettle⟩ := value_settle_eq_assign hs s'
    have hvalue := value_dispatch hs peers event
    rw [h, hsettle] at hvalue
    refine ⟨replica, ?_⟩
    rw [answer, result_bind_eq_ok]
    exact ⟨_, congrArg Except.ok hvalue, rfl⟩
  | @handlePolicy id' m bind s s' code h =>
    obtain rfl : id' = id := Option.some.inj htarget
    refine ⟨c.replica, ?_⟩
    simp only [answer, Controller.handlePolicy, hs, result_bind_eq_ok]
    exact ⟨_, ⟨_, h, rfl⟩, rfl⟩
  | dispatch_unknown id' peers event =>
    obtain rfl : id' = id := Option.some.inj htarget
    refine ⟨c.replica, ?_⟩
    rw [answer, dispatch_of_none hs, hnothing rfl]
    rfl
  | handlePolicy_unknown id' m bind =>
    obtain rfl : id' = id := Option.some.inj htarget
    refine ⟨c.replica, ?_⟩
    rw [answer, handlePolicy_of_none hs, hnothing rfl]
    rfl

theorem exists_handles (htarget : op.target? = some id)
    (h : (c.answer op).result = .ok (reply, c')) :
    ∃ reply x, op.Handles c.timer c.config (c.table.find? id) reply x := by
  cases op with
  | add imsi name => cases htarget
  | removeAll => cases htarget
  | remove id' => exact ⟨_, _, .remove id' _⟩
  | dispatch id' peers event =>
    cases c.table.find? id with
    | none => exact ⟨_, _, .dispatch_unknown id' peers event⟩
    | some s => exact ⟨_, _, .dispatch id' peers event rfl⟩
  | handlePolicy id' m bind =>
    obtain rfl : id' = id := Option.some.inj htarget
    cases hs : c.table.find? id' with
    | none => exact ⟨_, _, .handlePolicy_unknown id' m bind⟩
    | some s =>
      simp only [answer, Controller.handlePolicy, hs, result_bind_eq_ok] at h
      obtain ⟨-, ⟨⟨code, s'⟩, hs', -⟩, -⟩ := h
      exact ⟨_, _, .handlePolicy id' m bind hs'⟩

/-- An operation of a controller that meets no fault comes to what it makes of its session. -/
theorem handles_of_answer (htarget : op.target? = some id)
    (h : (c.answer op).result = .ok (reply, c')) :
    ∃ x replica, op.Handles c.timer c.config (c.table.find? id) reply x ∧
      c' = { c with replica, table := c.table.assign id x } := by
  obtain ⟨reply', x, hhandles⟩ := exists_handles htarget h
  obtain ⟨replica, hanswer⟩ := answer_of_handles htarget hhandles
  obtain ⟨rfl, rfl⟩ := Prod.mk.inj (Except.ok.inj (h.symm.trans hanswer))
  exact ⟨x, replica, hhandles, rfl⟩

/-! ## Runs -/

def Operation.isAbout (op : Operation) (id : UInt64) : Bool :=
  op.target? == some id

theorem Operation.isAbout_iff : op.isAbout id ↔ op.target? = some id :=
  beq_iff_eq

/-- What operations make of a table, one after another, with what is answered to each. -/
inductive Run (timer : ResponseTimer) (config : Config) :
    SessionTable → List Operation → List (Operation × Reply) → SessionTable → Prop
  | nil (t : SessionTable) : Run timer config t [] [] t
  | cons {t t' : SessionTable} {op : Operation} {operations : List Operation} {id : UInt64}
      {reply : Reply} {x : Option Session} {log : List (Operation × Reply)}
      (htarget : op.target? = some id) (h : op.Handles timer config (t.find? id) reply x)
      (hrest : Run timer config (t.assign id x) operations log t') :
      Run timer config t (op :: operations) ((op, reply) :: log) t'

/-- Performs operations one after another, up to one that ends in a fault. Gives what is answered
to each. -/
def answerAll (c : Controller σ) :
    List Operation → Attempt (List (Operation × Reply) × Controller σ)
  | [] => pure ([], c)
  | op :: operations => do
    let (reply, c) ← c.answer op
    let (log, c) ← answerAll c operations
    pure ((op, reply) :: log, c)

theorem run_of_answerAll (htargets : ∀ op ∈ operations, ∃ id, op.target? = some id)
    (h : (c.answerAll operations).result = .ok (log, c')) :
    Run c.timer c.config c.table operations log c'.table := by
  induction operations generalizing c log with
  | nil =>
    obtain ⟨rfl, rfl⟩ := Prod.mk.inj (Except.ok.inj h)
    exact .nil _
  | cons op operations ih =>
    obtain ⟨id, htarget⟩ := htargets op List.mem_cons_self
    simp only [answerAll, result_bind_eq_ok, result_pure, Except.ok.injEq, Prod.mk.injEq] at h
    obtain ⟨⟨reply, c₁⟩, hanswer, ⟨rest, last⟩, hrest, rfl, rfl⟩ := h
    obtain ⟨x, replica, hhandles, rfl⟩ := handles_of_answer htarget hanswer
    exact .cons htarget hhandles (ih (fun op hop => htargets op (List.mem_cons_of_mem _ hop)) hrest)

theorem answerAll_of_run (h : Run c.timer c.config c.table operations log t') :
    ∃ c', (c.answerAll operations).result = .ok (log, c') ∧ c'.table = t' := by
  generalize htimer : c.timer = timer at h
  generalize hconfig : c.config = config at h
  generalize htable : c.table = t at h
  induction h generalizing c with
  | nil t => exact ⟨c, rfl, htable⟩
  | @cons t t' op operations id reply x log htarget hhandles hrest ih =>
    subst htimer hconfig htable
    obtain ⟨replica, hanswer⟩ := answer_of_handles htarget hhandles
    obtain ⟨c', hrest, htable⟩ :=
      @ih { c with replica, table := c.table.assign id x } rfl rfl rfl
    refine ⟨c', ?_, htable⟩
    simp only [answerAll, result_bind_eq_ok, result_pure]
    exact ⟨_, hanswer, _, hrest, rfl⟩

namespace Run

/-- An operation may be moved behind operations about other sessions, and nobody notices. -/
theorem insert (htarget : op.target? = some id)
    (hhandles : op.Handles timer config (t.find? id) reply x)
    (h : Run timer config (t.assign id x) (pre ++ post) log t')
    (hpre : ∀ o ∈ pre, o.isAbout id = false) :
    ∃ log', Run timer config t (pre ++ op :: post) log' t' ∧
      ∀ j, log'.filter (·.1.isAbout j) = ((op, reply) :: log).filter (·.1.isAbout j) := by
  induction pre generalizing t log with
  | nil => exact ⟨_, .cons htarget hhandles h, fun j => rfl⟩
  | cons o pre ih =>
    obtain _ | @⟨_, _, _, _, k, reply', y, log, htarget', hhandles', hrest⟩ := h
    have hne : k ≠ id := by
      rintro rfl
      have hother := hpre o List.mem_cons_self
      rw [Operation.isAbout, htarget', beq_self_eq_true] at hother
      cases hother
    rw [SessionTable.find?_assign_of_ne hne] at hhandles'
    rw [SessionTable.assign_comm hne.symm] at hrest
    rw [← SessionTable.find?_assign_of_ne hne.symm t y] at hhandles
    obtain ⟨log', hrun, hlog⟩ :=
      ih hhandles hrest fun o ho => hpre o (List.mem_cons_of_mem _ ho)
    refine ⟨_, .cons htarget' hhandles' hrun, fun j => ?_⟩
    -- No session is told about both operations, so their order does not show.
    rw [List.filter_cons, hlog j, List.filter_cons, List.filter_cons, List.filter_cons]
    simp only [Operation.isAbout, htarget, htarget', beq_iff_eq, Option.some.injEq]
    by_cases hk : k = j
    · have hid : id ≠ j := fun hid => hne (hk.trans hid.symm)
      simp [hk, hid]
    · simp [hk]

/-- Operations that give each session the same in the same order come to the same. -/
theorem reorder (h : Run timer config t operations log t')
    (htargets : ∀ op ∈ operations', ∃ id, op.target? = some id)
    (hsame : ∀ id, operations.filter (·.isAbout id) = operations'.filter (·.isAbout id)) :
    ∃ log', Run timer config t operations' log' t' ∧
      ∀ id, log'.filter (·.1.isAbout id) = log.filter (·.1.isAbout id) := by
  induction h generalizing operations' with
  | nil t =>
    obtain rfl : operations' = [] := by
      rw [List.eq_nil_iff_forall_not_mem]
      intro op hop
      obtain ⟨id, htarget⟩ := htargets op hop
      have hmem : op ∈ operations'.filter (·.isAbout id) :=
        List.mem_filter.mpr ⟨hop, Operation.isAbout_iff.mpr htarget⟩
      rw [← hsame id] at hmem
      cases hmem
    exact ⟨[], .nil t, fun id => rfl⟩
  | @cons t t' op operations id reply x log htarget hhandles hrest ih =>
    -- The first operation is the first one about its session in the other order as well.
    have hfirst := hsame id
    rw [List.filter_cons, if_pos (Operation.isAbout_iff.mpr htarget)] at hfirst
    obtain ⟨pre, post, rfl, hpre, -, hpost⟩ := List.filter_eq_cons_iff.mp hfirst.symm
    have hother : ∀ o ∈ pre, o.isAbout id = false := by
      intro o ho
      exact Bool.eq_false_of_not_eq_true (hpre o ho)
    have hrestSame : ∀ j, operations.filter (·.isAbout j) = (pre ++ post).filter (·.isAbout j) := by
      intro j
      have hj := hsame j
      rw [List.filter_append, List.filter_cons, List.filter_cons] at hj
      rw [List.filter_append]
      by_cases habout : op.isAbout j
      · obtain rfl : id = j :=
          Option.some.inj (htarget.symm.trans (Operation.isAbout_iff.mp habout))
        rw [List.filter_eq_nil_iff.mpr hpre, List.nil_append, hpost]
      · rwa [if_neg habout, if_neg habout] at hj
    obtain ⟨log', hrun, hlog⟩ := ih (fun o ho => htargets o (by
      obtain ho | ho := List.mem_append.mp ho
      · exact List.mem_append_left _ ho
      · exact List.mem_append_right _ (List.mem_cons_of_mem _ ho))) hrestSame
    obtain ⟨log'', hrun', hlog'⟩ := insert htarget hhandles hrun hother
    refine ⟨log'', hrun', fun j => ?_⟩
    rw [hlog' j, List.filter_cons, List.filter_cons, hlog j]

end Run

/-- Sessions of a controller do not interfere, whatever the collaborators answer and whatever the
engine that binds pushed rules does with the session that it gets. An operation about one session
leaves every other one as it is, in the table or out of it. If operations, each about some session,
meet no fault, then they meet none in any other order in which each session is given the same in the
same order, and they come to the same: the final table is the same, and so are the replies about
each session, one by one. An operation about a session that is not in the table says so, calls
nobody, and leaves the controller as it is. -/
theorem isolated_of_answerAll (c : Controller σ) :
    (∀ op c' a b, op.target? = some a → a ≠ b → (c.perform op).result = .ok c' →
      c'.table.find? b = c.table.find? b) ∧
    (∀ operations operations' log c',
      (∀ op ∈ operations ++ operations', ∃ id, op.target? = some id) →
      (∀ id, operations.filter (·.isAbout id) = operations'.filter (·.isAbout id)) →
      (c.answerAll operations).result = .ok (log, c') →
      ∃ log' c'', (c.answerAll operations').result = .ok (log', c'') ∧ c''.table = c'.table ∧
        ∀ id, log'.filter (·.1.isAbout id) = log.filter (·.1.isAbout id)) ∧
    ∀ id, c.table.find? id = none →
      c.removeSession id = pure (none, c) ∧
        (∀ peers event, c.dispatch id peers event = pure (.error (.notFound id), c)) ∧
        ∀ m bind, c.handlePolicy id m bind = pure (.error (.notFound id), c) := by
  refine ⟨fun op c' a b htarget hne hok => ?_, ?_, fun id hnone => ?_⟩
  · rw [perform_eq, map_eq_pure_bind, result_bind_eq_ok] at hok
    obtain ⟨⟨reply, c₁⟩, hanswer, hc'⟩ := hok
    obtain rfl := Except.ok.inj hc'
    obtain ⟨x, replica, -, rfl⟩ := handles_of_answer htarget hanswer
    exact SessionTable.find?_assign_of_ne hne.symm c.table x
  · intro operations operations' log c' htargets hsame hok
    have hrun := run_of_answerAll (fun op hop => htargets op (List.mem_append_left _ hop)) hok
    obtain ⟨log', hrun', hlog⟩ :=
      hrun.reorder (fun op hop => htargets op (List.mem_append_right _ hop)) hsame
    obtain ⟨c'', hok', htable⟩ := answerAll_of_run hrun'
    exact ⟨log', c'', hok', htable, hlog⟩
  · exact ⟨removeSession_of_none hnone, dispatch_of_none hnone, handlePolicy_of_none hnone⟩

/-- One session is deleted while the other one is created. The user plane fails for the other one,
and an engine takes up its rules. -/
theorem isolated_of_answerAll_deleted :
    let c : Controller OfflineStore :=
      { Controller.new {} {} with
        table.entries := [(1, .new 1 1 "001010000000001" (some "internet")),
          (2, .new 2 2 "001010000000002" none)] }
    let delete : Operation := .dispatch 1 .working (.message 7 .deleteSessionRequest)
    let deleted : Operation := .dispatch 1 .working (.message 7 (.deleteSessionResponse none))
    let create : Operation :=
      .dispatch 2 (.failing (some "no answer") none) (.message 7 .createSessionRequest)
    let push := pushing 2
    (∃ c₁, (c.perform delete).result = .ok c₁ ∧ c₁.table.find? 2 = c.table.find? 2) ∧
    (∃ log log' c' c'',
      (c.answerAll [delete, deleted, create, push]).result = .ok (log, c') ∧
      (c.answerAll [create, delete, push, deleted]).result = .ok (log', c'') ∧
      c''.table = c'.table ∧ c'.table.find? 1 = none ∧ (c'.table.find? 2).isSome ∧
      ∀ id, log'.filter (·.1.isAbout id) = log.filter (·.1.isAbout id)) ∧
    c.dispatch 3 .working (.timer 7) = pure (.error (.notFound 3), c) := by
  intro c delete deleted create push
  obtain ⟨c₁, hdelete⟩ : ∃ c₁, (c.perform delete).result = .ok c₁ := ⟨_, rfl⟩
  obtain ⟨⟨log, c'⟩, hok, hgone, hthere⟩ : ∃ x,
      (c.answerAll [delete, deleted, create, push]).result = .ok x ∧
        x.2.table.find? 1 = none ∧ (x.2.table.find? 2).isSome := ⟨_, rfl, rfl, rfl⟩
  have htargets : ∀ op ∈ [delete, deleted, create, push] ++ [create, delete, push, deleted],
      ∃ id, op.target? = some id := by
    simp [delete, deleted, create, push, pushing, Operation.target?]
  have hsame : ∀ id, [delete, deleted, create, push].filter (·.isAbout id) =
      [create, delete, push, deleted].filter (·.isAbout id) := by
    intro id
    by_cases hid : 1 = id
    · subst hid
      rfl
    · simp [Operation.isAbout, Operation.target?, delete, deleted, create, push, pushing,
        List.filter_cons, hid]
  obtain ⟨hothers, horder, hunknown⟩ := isolated_of_answerAll c
  obtain ⟨log', c'', hok', htable, hlog⟩ := horder _ _ log c' htargets hsame hok
  exact ⟨⟨c₁, hdelete, hothers delete c₁ 1 2 rfl (by decide) hdelete⟩,
    ⟨log, log', c', c'', hok, hok', htable, hgone, hthere, hlog⟩,
    (hunknown 3 rfl).2.1 .working (.timer 7)⟩

end Controller

end SessionControl
