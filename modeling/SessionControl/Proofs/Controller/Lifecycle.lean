import SessionControl.Proofs.Controller.Run
import SessionControl.Proofs.Roaming.Transaction

/-!
# The life of a session in the table

A session is added under a number and an index that no live session has. While it is in the table
its machine runs; it leaves the table by request, together with all the others, or when the open
request to delete it is answered. A number that has left the table does not come back.

## Main definitions

- `Roaming.Machine.Running` — a machine that has begun and has not finished
- `Roaming.Machine.EndsWith` — an event that answers the open request to delete the session
- `SessionTable.Counted` — the numbers and indexes of the sessions were counted up

## Main statements

- `Roaming.Machine.Running.step_eq_final_iff` — when a running machine finishes
- `Controller.counted_of_performAll` — what a run keeps of the table
- `Controller.find?_eq_none_of_performAll` — a number that has been given and left is not found
- `Controller.lifecycle_of_performAll` — the table after any run
-/

namespace SessionControl

open Attempt

/-! ## Machines in use -/

namespace Roaming

variable {timer : ResponseTimer} {m : Machine}

structure Machine.Running (timer : ResponseTimer) (m : Machine) : Prop where
  begun : m.state ≠ .initial
  unfinished : m.state ≠ .final
  settled : m.Settled timer

/-- The event is the response to the open request to delete the session, whatever its cause. -/
def Machine.EndsWith (m : Machine) (e : Event) : Prop :=
  ∃ id cause timeout, e = .message id (.deleteSessionResponse cause) ∧
    m.transaction = some { id, procedure := .deleteSession, timeout }

/-- A running machine finishes exactly when the open request to delete the session is answered. -/
theorem Machine.Running.step_eq_final_iff (hm : m.Running timer) (e : Event) :
    (m.step timer e).state = .final ↔ m.EndsWith e := by
  obtain ⟨hbegun, hunfinished, hsettled⟩ := hm
  -- A transaction is open exactly while a response is awaited, so a closed machine cannot finish.
  cases hsettled with
  | closed state hstate =>
    have hnone : ¬ EndsWith { state, transaction := none } e := by
      rintro ⟨id, cause, timeout, -, hopen⟩
      cases hopen
    refine iff_of_false ?_ hnone
    cases state with
    | initial => exact absurd rfl hbegun
    | operational =>
      rcases e with ⟨id, msg⟩ | id
      · cases msg <;> simp [step, transition, whenOperational]
      · simp [step, transition, whenOperational]
    | waiting p => exact absurd rfl (hstate p)
    | final => exact absurd rfl hunfinished
    | exception => simp [step, transition]
  | awaiting id p =>
    constructor
    · intro hfinal
      rcases e with ⟨id', msg⟩ | id'
      · simp only [step, transition, whenWaiting] at hfinal
        split at hfinal
        · next cause hopen hanswer =>
          obtain rfl : p = .deleteSession := by cases p <;> simp [afterResponse] at hfinal ⊢
          obtain rfl : id = id' := by simpa [isOpen] using hopen
          cases msg <;> simp [Procedure.answeredBy?] at hanswer
          exact ⟨id, _, _, rfl, rfl⟩
        · cases hfinal
      · cases hfinal
    · rintro ⟨id', cause, timeout, rfl, hopen⟩
      obtain ⟨rfl, rfl, -⟩ := Transaction.mk.inj (Option.some.inj hopen)
      simp [step, transition, whenWaiting, isOpen, Procedure.answeredBy?, afterResponse]

theorem Machine.Running.step (hm : m.Running timer) {e : Event}
    (h : (m.step timer e).state ≠ .final) : (m.step timer e).Running timer :=
  ⟨state_step_ne_initial timer m e, h, hm.settled.step e⟩

theorem Machine.Running.state_cases (hm : m.Running timer) :
    m.state = .operational ∨ (∃ p, m.state = .waiting p) ∨ m.state = .exception := by
  cases hstate : m.state with
  | initial => exact absurd hstate hm.begun
  | operational => exact .inl rfl
  | waiting p => exact .inr (.inl ⟨p, rfl⟩)
  | final => exact absurd hstate hm.unfinished
  | exception => exact .inr (.inr rfl)

end Roaming

/-! ## Sessions told apart -/

namespace SessionTable

open Roaming (ResponseTimer)

variable {t : SessionTable} {timer : ResponseTimer} {n : Nat} {id : UInt64} {s s' : Session}

theorem mem_sessions_of_find? (h : t.find? id = some s) : s ∈ t.sessions :=
  List.mem_map_of_mem (mem_entries_of_find? h)

theorem find?_eq_none_iff : t.find? id = none ↔ id ∉ t.entries.map Prod.fst := by
  rw [find?, List.lookup_eq_none_iff]
  simp only [List.mem_map, not_exists, not_and, bne_iff_ne]
  exact forall₂_congr fun e _ => ⟨fun h he => h he.symm, fun h he => h he.symm⟩

theorem find?_of_mem_entries (hkeys : (t.entries.map Prod.fst).Nodup) (h : (id, s) ∈ t.entries) :
    t.find? id = some s := by
  cases hfound : t.find? id with
  | none => exact absurd (List.mem_map_of_mem h) (find?_eq_none_iff.mp hfound)
  | some s₁ =>
    have hsame := List.inj_on_of_nodup_map hkeys (mem_entries_of_find? hfound) h rfl
    rw [(Prod.mk.inj hsame).2]

/-- A session that is replaced has what the sessions are told apart by. -/
theorem map_sessions_put {β : Type} (hkeys : (t.entries.map Prod.fst).Nodup)
    (hfound : t.find? id = some s) {f : Session → β} (hf : f s' = f s) :
    (t.put id s').sessions.map f = t.sessions.map f := by
  simp only [sessions, put, List.map_map]
  refine List.map_congr_left fun e he => ?_
  by_cases hid : e.1 = id
  · have hsame : e.2 = s := by
      have hmem : (id, e.2) ∈ t.entries := hid ▸ he
      exact Option.some.inj ((find?_of_mem_entries hkeys hmem).symm.trans hfound)
    simp [hid, hf, hsame]
  · simp [hid]

/-- Indexes count up as long as they do not wrap around. -/
theorem toNat_indexAfter {index : UInt32} (h : index.toNat + 1 < 2 ^ 32) :
    (indexAfter index).toNat = index.toNat + 1 := by
  have hnext : (index + 1).toNat = index.toNat + 1 := by
    rw [UInt32.toNat_add, UInt32.toNat_one, Nat.mod_eq_of_lt h]
  have hmax : indexAfter index = if index + 1 ≤ 1 then 1 else index + 1 := rfl
  rw [hmax]
  split
  · next hle =>
    rw [UInt32.le_iff_toNat_le, hnext, UInt32.toNat_one] at hle
    rw [UInt32.toNat_one]
    omega
  · exact hnext

/-- After `n` additions: the numbers and the indexes from one to `n` have been given, each to one
session, and the machine of every session is running. -/
structure Counted (timer : ResponseTimer) (n : Nat) (t : SessionTable) : Prop where
  numbered : t.Numbered n
  nextIndex : t.nextIndex.toNat = n + 1
  keyed : ∀ e ∈ t.entries, e.2.id = e.1
  keys : (t.entries.map Prod.fst).Nodup
  indexed : ∀ s ∈ t.sessions, s.index.toNat ≤ n
  indexes : (t.sessions.map (·.index)).Nodup
  running : ∀ s ∈ t.sessions, s.machine.Running timer

theorem counted_empty (timer : ResponseTimer) : Counted timer 0 {} where
  numbered := numbered_empty
  nextIndex := rfl
  keyed := by simp
  keys := .nil
  indexed := by simp [sessions]
  indexes := .nil
  running := by simp [sessions]

namespace Counted

theorem ids (h : t.Counted timer n) : (t.sessions.map (·.id)).Nodup := by
  have hids : t.sessions.map (·.id) = t.entries.map Prod.fst := by
    rw [sessions, List.map_map]
    exact List.map_congr_left h.keyed
  rw [hids]
  exact h.keys

theorem insert (h : t.Counted timer n) (hn : n + 1 < 2 ^ 32 - 1) (hid : s.id = t.nextId)
    (hindex : s.index = t.nextIndex) (hs : s.machine.Running timer) :
    (t.number.2.insert t.nextId s).Counted timer (n + 1) := by
  have hfresh : t.find? t.nextId = none := h.numbered.find?_nextId (by simp [UInt64.size]; omega)
  have hinsert : t.number.2.insert t.nextId s =
      { t.number.2 with entries := t.entries ++ [(t.nextId, s)] } := by
    rw [SessionTable.insert, if_neg]
    · rfl
    · have hfresh' : t.number.2.find? t.nextId = none := hfresh
      rw [hfresh']
      exact Bool.false_ne_true
  have hnumbered := h.numbered.insert s
  rw [hinsert] at hnumbered ⊢
  have hindexNat : s.index.toNat = n + 1 := hindex ▸ h.nextIndex
  have hsessions : SessionTable.sessions
      { t.number.2 with entries := t.entries ++ [(t.nextId, s)] } = t.sessions ++ [s] := by
    simp [sessions]
  constructor
  case numbered => exact hnumbered
  case nextIndex =>
    rw [← h.nextIndex]
    exact toNat_indexAfter (by rw [h.nextIndex]; omega)
  case keyed =>
    intro e he
    obtain he | he := List.mem_append.mp he
    · exact h.keyed e he
    · rw [List.mem_singleton.mp he]
      exact hid
  -- What a session gets is above all that has been given, so it is new.
  case keys =>
    rw [List.map_append, List.nodup_append]
    refine ⟨h.keys, List.nodup_singleton _, ?_⟩
    rintro a ha b hb rfl
    obtain rfl : a = t.nextId := List.mem_singleton.mp hb
    exact find?_eq_none_iff.mp hfresh ha
  case indexed =>
    rw [hsessions, List.forall_mem_append, List.forall_mem_singleton]
    exact ⟨fun s₁ hs₁ => Nat.le_succ_of_le (h.indexed s₁ hs₁), hindexNat.le⟩
  case indexes =>
    rw [hsessions, List.map_append, List.nodup_append]
    refine ⟨h.indexes, List.nodup_singleton _, ?_⟩
    intro a ha b hb hab
    obtain ⟨s₁, hs₁, rfl⟩ := List.mem_map.mp ha
    have hle := h.indexed s₁ hs₁
    rw [hab, List.mem_singleton.mp hb, hindexNat] at hle
    exact Nat.not_succ_le_self n hle
  case running =>
    rw [hsessions, List.forall_mem_append, List.forall_mem_singleton]
    exact ⟨h.running, hs⟩

theorem put (h : t.Counted timer n) (hfound : t.find? id = some s) (hid : s'.id = s.id)
    (hindex : s'.index = s.index) (hs' : s'.machine.Running timer) :
    (t.put id s').Counted timer n := by
  have hmem : ∀ e ∈ (t.put id s').entries, e ∈ t.entries ∨ e = (id, s') := by
    intro e he
    obtain ⟨e₀, he₀, rfl⟩ := List.mem_map.mp he
    split
    · exact .inr rfl
    · exact .inl he₀
  have hsessions : ∀ s₁ ∈ (t.put id s').sessions, s₁ ∈ t.sessions ∨ s₁ = s' := by
    intro s₁ hs₁
    obtain ⟨e, he, rfl⟩ := List.mem_map.mp hs₁
    exact (hmem e he).imp List.mem_map_of_mem (congrArg Prod.snd)
  constructor
  case numbered => exact h.numbered.put id s'
  case nextIndex => exact h.nextIndex
  case keyed =>
    intro e he
    obtain he | rfl := hmem e he
    · exact h.keyed e he
    · exact hid.trans (h.keyed _ (mem_entries_of_find? hfound))
  case keys =>
    have hkeys : (t.put id s').entries.map Prod.fst = t.entries.map Prod.fst := by
      rw [SessionTable.put, List.map_map]
      refine List.map_congr_left fun e _ => ?_
      by_cases he : e.1 = id <;> simp [he]
    rw [hkeys]
    exact h.keys
  case indexed =>
    intro s₁ hs₁
    obtain hs₁ | rfl := hsessions s₁ hs₁
    · exact h.indexed s₁ hs₁
    · rw [hindex]
      exact h.indexed s (mem_sessions_of_find? hfound)
  case indexes =>
    rw [map_sessions_put h.keys hfound hindex]
    exact h.indexes
  case running =>
    intro s₁ hs₁
    obtain hs₁ | rfl := hsessions s₁ hs₁
    · exact h.running s₁ hs₁
    · exact hs'

theorem erase (h : t.Counted timer n) (id : UInt64) : (t.erase id).Counted timer n := by
  have hsub : (t.erase id).entries.Sublist t.entries := List.filter_sublist
  have hsessions : (t.erase id).sessions.Sublist t.sessions := hsub.map _
  exact
    { numbered := h.numbered.erase id
      nextIndex := h.nextIndex
      keyed := fun e he => h.keyed e (hsub.subset he)
      keys := h.keys.sublist (hsub.map _)
      indexed := fun s hs => h.indexed s (hsessions.subset hs)
      indexes := h.indexes.sublist (hsessions.map _)
      running := fun s hs => h.running s (hsessions.subset hs) }

end Counted

end SessionTable

/-! ## Runs -/

namespace Controller

open Roaming (Event)

variable {σ : Type} [KeyValueStore σ] {c c' c₀ c₁ : Controller σ} {op : Operation}
  {operations before after : List Operation} {n : Nat} {id : UInt64}

/-- What tells the sessions of a table apart, and the machine of each. -/
def identity (s : Session) : UInt64 × UInt32 × Roaming.Machine :=
  (s.id, s.index, s.machine)

theorem counted_removeAll (hc : c.table.Counted c.timer n) :
    c.removeAll.value.table.Counted c.removeAll.value.timer n := by
  refine inv_removeEach (P := fun c => c.table.Counted c.timer n) ?_ _ hc
  intro c id hc
  cases hfound : c.table.find? id with
  | none =>
    rw [value_removeSession_of_none hfound]
    exact hc
  | some s =>
    rw [value_removeSession hfound]
    exact hc.erase id

/-- An operation keeps the count, which an addition takes one further. -/
theorem counted_of_effect (hc : c.table.Counted c.timer n) (h : c.Effect op c')
    (hkeeps : op.Keeps identity) (hn : n + (if op.isAddition then 1 else 0) < 2 ^ 32 - 1) :
    c'.table.Counted c'.timer (n + if op.isAddition then 1 else 0) := by
  cases h with
  | added hs =>
    subst hs
    exact hc.insert hn rfl rfl ⟨by simp, by simp, .closed .operational (by simp)⟩
  | removed hs => exact hc.erase _
  | finished hs hs' hstate => exact hc.erase _
  | @stepped id peers event s s' hs hs' hstate =>
    rw [Session.session_dispatch] at hs'
    subst hs'
    have hrunning := hc.running s (SessionTable.mem_sessions_of_find? hs)
    exact hc.put hs rfl rfl (hrunning.step hstate)
  | @informed id m bind s s' answer hs hs' =>
    have hsame : identity s' = identity s :=
      Session.keeps_handlePolicyWith hkeeps
        (fun s₁ hpolicy => by rw [identity, Session.frame_handlePolicy hpolicy]; rfl) hs'
    obtain ⟨hid, hrest⟩ := Prod.mk.inj hsame
    obtain ⟨hindex, hmachine⟩ := Prod.mk.inj hrest
    have hrunning := hc.running s (SessionTable.mem_sessions_of_find? hs)
    exact hc.put hs hid hindex (hmachine ▸ hrunning)
  | cleared => exact counted_removeAll hc
  | @unknown op id hop hnone =>
    cases op with
    | add imsi name => cases hop
    | remove | dispatch | handlePolicy | removeAll => exact hc

/-- A run counts the numbers and the indexes of its sessions up, and keeps their machines
running. -/
theorem counted_of_performAll (hnew : c₀.table = {}) (hkeeps : ∀ op ∈ operations, op.Keeps identity)
    (hfew : operations.countP (·.isAddition) < 2 ^ 32 - 1)
    (hok : (c₀.performAll operations).result = .ok c) :
    c.table.Counted c.timer (operations.countP (·.isAddition)) := by
  induction operations using List.reverseRecOn generalizing c with
  | nil =>
    obtain rfl := Except.ok.inj hok
    rw [hnew]
    exact SessionTable.counted_empty _
  | append_singleton operations op ih =>
    obtain ⟨c₁, hrun, hop⟩ := result_performAll_concat.mp hok
    rw [List.countP_append, List.countP_singleton] at hfew ⊢
    rw [List.forall_mem_append, List.forall_mem_singleton] at hkeeps
    exact counted_of_effect (ih hkeeps.1 (by omega) hrun) (effect_of_perform hop) hkeeps.2 hfew

/-- A session that is found after an operation was there before, or it was added and has the next
number. -/
theorem isSome_of_effect (h : c.Effect op c') (hfound : (c'.table.find? id).isSome) :
    (c.table.find? id).isSome ∨ id = c.table.nextId := by
  cases h with
  | @added imsi name s hs =>
    subst hs
    rw [SessionTable.find?_insert, Option.isSome_or, Bool.or_eq_true] at hfound
    refine hfound.imp_right fun hadded => ?_
    split at hadded
    · next hid => exact hid
    · cases hadded
  | removed | finished =>
    rw [SessionTable.find?_erase] at hfound
    split at hfound
    · cases hfound
    · exact .inl hfound
  | stepped hs | informed hs =>
    rw [SessionTable.find?_put] at hfound
    split at hfound
    · next hid => exact .inl (by rw [hid, hs]; rfl)
    · exact .inl hfound
  | cleared =>
    rw [find?_removeAll] at hfound
    cases hfound
  | unknown => exact .inl hfound

/-- A number that has been given and is not in the table is not found again. -/
theorem find?_eq_none_of_performAll (hnew : c₀.table = {})
    (hfew : (before ++ after).countP (·.isAddition) < 2 ^ 32 - 1)
    (hbefore : (c₀.performAll before).result = .ok c₁)
    (hgiven : ∃ k, 0 < k ∧ k ≤ before.countP (·.isAddition) ∧ id = UInt64.ofNat k)
    (hnone : c₁.table.find? id = none)
    (hok : (c₀.performAll (before ++ after)).result = .ok c) : c.table.find? id = none := by
  induction after using List.reverseRecOn generalizing c with
  | nil =>
    rw [List.append_nil, hbefore] at hok
    obtain rfl := Except.ok.inj hok
    exact hnone
  | append_singleton after op ih =>
    rw [← List.append_assoc] at hfew hok
    obtain ⟨c₂, hrun, hop⟩ := result_performAll_concat.mp hok
    rw [List.countP_append] at hfew
    have hnone₂ := ih (by omega) hrun
    by_contra hsome
    obtain hold | hnext :=
      isSome_of_effect (effect_of_perform hop) (Option.isSome_iff_ne_none.mpr hsome)
    · rw [hnone₂] at hold
      cases hold
    · -- The next number is above all that have been given.
      obtain ⟨k, hpos, hk, hid⟩ := hgiven
      have hcount : (before ++ after).countP (·.isAddition) =
          before.countP (·.isAddition) + after.countP (·.isAddition) := List.countP_append
      have hnat : k % 2 ^ 64 = ((before ++ after).countP (·.isAddition) + 1) % 2 ^ 64 := by
        rw [hid, (numbered_of_performAll hnew hrun).next] at hnext
        exact congrArg UInt64.toNat hnext
      omega

/-- A running session leaves the table exactly when the event ends its machine. -/
theorem find?_dispatch_eq_none_iff {s : Session} (hs : c.table.find? id = some s)
    (hrunning : s.machine.Running c.timer) (peers : Peers) (event : Event) :
    (c.dispatch id peers event).value.2.table.find? id = none ↔ s.machine.EndsWith event := by
  have hstate : (s.dispatch c.timer peers event).value.2.state =
      (s.machine.step c.timer event).state := by
    rw [Session.session_dispatch]
    rfl
  rw [value_dispatch hs, ← hrunning.step_eq_final_iff, ← hstate]
  by_cases hfinal : (s.dispatch c.timer peers event).value.2.state = .final
  · refine iff_of_true ?_ hfinal
    rw [value_settle_of_final hfinal hs]
    exact (c.table.find?_erase id id).trans (if_pos rfl)
  · refine iff_of_false ?_ hfinal
    rw [value_settle hfinal, SessionTable.find?_put_self hs]
    exact Option.some_ne_none _

/-- The sessions of a controller after any run from an empty table that adds fewer than
`2 ^ 32 - 1` sessions. Every session is under its own number, and no two have the same number or
the same index. Each of them is operational, awaits a response or is in the exception state, and has
a transaction open exactly if it awaits a response. An event removes its session exactly if it is
the response to the open request to delete it, whatever its cause. A session that was there at some
time and was not at a later one, however it left, is not there: nothing that is given to its number
finds it. Engines that bind pushed rules may do anything with a session but change its number, its
index and its machine, as those do that leave it alone. -/
theorem lifecycle_of_performAll (hnew : c₀.table = {})
    (hkeeps : ∀ op ∈ operations, op.Keeps identity)
    (hfew : operations.countP (·.isAddition) < 2 ^ 32 - 1)
    (hok : (c₀.performAll operations).result = .ok c) :
    ((∀ e ∈ c.table.entries, e.2.id = e.1) ∧ (c.table.sessions.map (·.id)).Nodup ∧
      (c.table.sessions.map (·.index)).Nodup) ∧
    (∀ s ∈ c.table.sessions,
      (s.state = .operational ∨ (∃ p, s.state = .waiting p) ∨ s.state = .exception) ∧
        (s.machine.transaction.isSome ↔ ∃ p, s.state = .waiting p)) ∧
    (∀ id s peers event, c.table.find? id = some s →
      ((c.dispatch id peers event).value.2.table.find? id = none ↔
        ∃ x cause timeout, event = .message x (.deleteSessionResponse cause) ∧
          s.machine.transaction = some { id := x, procedure := .deleteSession, timeout })) ∧
    ∀ before middle after c₁ c₂ id, operations = before ++ middle ++ after →
      (c₀.performAll before).result = .ok c₁ → (c₁.table.find? id).isSome →
      (c₀.performAll (before ++ middle)).result = .ok c₂ → c₂.table.find? id = none →
      c.table.find? id = none ∧ (c.removeSession id).value = (none, c) ∧
        (∀ peers event, (c.dispatch id peers event).value = (.error (.notFound id), c)) ∧
        ∀ m bind, (c.handlePolicy id m bind).result = .ok (.error (.notFound id), c) := by
  have hc := counted_of_performAll hnew hkeeps hfew hok
  refine ⟨⟨hc.keyed, hc.ids, hc.indexes⟩, fun s hs => ?_, fun id s peers event hs => ?_, ?_⟩
  · have hrunning := hc.running s hs
    exact ⟨hrunning.state_cases, hrunning.settled.isSome_iff⟩
  · have hrunning := hc.running s (SessionTable.mem_sessions_of_find? hs)
    exact find?_dispatch_eq_none_iff hs hrunning peers event
  · rintro before middle after c₁ c₂ id rfl hbefore hthere hmiddle hgone
    have hgiven : ∃ k, 0 < k ∧ k ≤ (before ++ middle).countP (·.isAddition) ∧
        id = UInt64.ofNat k := by
      obtain ⟨k, hpos, hk, hid⟩ := (numbered_of_performAll hnew hbefore).given id hthere
      rw [List.countP_append]
      exact ⟨k, hpos, Nat.le_add_right_of_le hk, hid⟩
    have hnone := find?_eq_none_of_performAll hnew hfew hmiddle hgiven hgone hok
    refine ⟨hnone, ?_, fun peers event => ?_, fun m bind => ?_⟩
    · rw [removeSession_of_none hnone]
      rfl
    · rw [dispatch_of_none hnone]
      rfl
    · rw [handlePolicy_of_none hnone]
      rfl

/-- One session is deleted although the peer rejects it, another one awaits a response meanwhile,
and a third one is added after that. An engine takes up the rules that are pushed in between. -/
theorem lifecycle_of_performAll_rejected :
    let c₀ : Controller OfflineStore := .new {} {}
    let before : List Operation := [.add "001010000000001" (some "internet"),
      .add "001010000000001" (some "ims"), .dispatch 1 .working (.message 7 .deleteSessionRequest)]
    let middle : List Operation := [.dispatch 2 .working (.message 8 .createSessionRequest),
      pushing 2, .dispatch 1 .working (.message 7 (.deleteSessionResponse (some 64)))]
    let after : List Operation := [.add "001010000000001" (some "internet")]
    ∃ c, (c₀.performAll (before ++ middle ++ after)).result = .ok c ∧
      c.table.sessions.map (·.id) = [2, 3] ∧ (c.table.sessions.map (·.index)).Nodup ∧
      (∀ s ∈ c.table.sessions, s.machine.transaction.isSome ↔ ∃ p, s.state = .waiting p) ∧
      (c.dispatch 1 .working (.timer 7)).value = (.error (.notFound 1), c) := by
  intro c₀ before middle after
  obtain ⟨c₁, hbefore⟩ : ∃ c₁, (c₀.performAll before).result = .ok c₁ := ⟨_, rfl⟩
  obtain ⟨c₂, hmiddle⟩ : ∃ c₂, (c₀.performAll (before ++ middle)).result = .ok c₂ := ⟨_, rfl⟩
  obtain ⟨c, hok⟩ : ∃ c, (c₀.performAll (before ++ middle ++ after)).result = .ok c := ⟨_, rfl⟩
  have hkeeps : ∀ op ∈ before ++ middle ++ after, op.Keeps identity := by
    simp [before, middle, after, pushing, Operation.Keeps, identity]
  obtain ⟨⟨-, -, hindexes⟩, hstates, -, hgone⟩ :=
    lifecycle_of_performAll rfl hkeeps (by decide) hok
  obtain ⟨-, -, hdispatch, -⟩ := hgone before middle after c₁ c₂ 1 rfl hbefore
    (by rw [← Except.ok.inj hbefore]; rfl) hmiddle (by rw [← Except.ok.inj hmiddle]; rfl)
  exact ⟨c, hok, by rw [← Except.ok.inj hok]; rfl, hindexes, fun s hs => (hstates s hs).2,
    hdispatch .working (.timer 7)⟩

end Controller

end SessionControl
