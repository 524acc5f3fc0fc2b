import SessionControl.Proofs.Controller.Run
import SessionControl.Proofs.Sequence

/-!
# What the replica leaves out

The replica has one record for each subscriber, not one for each session. So a session that is
removed takes the record of every other session of its subscriber with it, and these stay without
one until something happens to them. This is the only way in which a live session comes to be
without a record, as long as the replica is connected to a store that works.

## Main definitions

- `Reliable` — a store that never fails, seen through a way of reading it
- `Controller.Covered` — every live session has a record
- `Controller.LeavesBehind` — a session goes while another one of its subscriber stays

## Main statements

- `MemoryStore.reliable` — the store in memory is reliable, unless it is told to fail
- `Controller.serving_of_effect` — the replica stays connected
- `Controller.covered_iff_of_effect` — what an operation does to the records of live sessions
- `Controller.covered_iff_of_performAll` — the same for a whole run
- `Controller.not_forall_covered` — there are runs after which a live session has no record
-/

namespace SessionControl

open Attempt

/-! ## Stores that work -/

/-- A store that never fails as long as it `works`, and keeps working. What `get?` reads under a key
is what was written there last. -/
structure Reliable {σ : Type} [KeyValueStore σ] (works : σ → Prop)
    (get? : σ → String → Option String) : Prop where
  set_ok : ∀ {store}, works store → ∀ key value, ∃ store',
    KeyValueStore.set key value store = (.ok (), store') ∧ works store' ∧
      ∀ k, get? store' k = if k = key then some value else get? store k
  delete_ok : ∀ {store}, works store → ∀ key, ∃ store',
    KeyValueStore.delete key store = (.ok (), store') ∧ works store' ∧
      ∀ k, get? store' k = if k = key then none else get? store k

theorem MemoryStore.reliable :
    Reliable (fun store : MemoryStore => store.failure = none) MemoryStore.get? where
  set_ok := by
    intro store hworks key value
    refine ⟨{ store with entries := without key store.entries ++ [(key, value)] }, ?_, hworks, ?_⟩
    · change store.writing _ = _
      rw [writing, hworks]
    · intro k
      rw [get?, List.lookup_append, without, lookup_filter_ne, List.lookup_cons]
      by_cases hk : k = key
      · simp [hk]
      · have hne : (k == key) = false := beq_false_of_ne hk
        simp [hk, hne, get?]
  delete_ok := by
    intro store hworks key
    refine ⟨{ store with entries := without key store.entries }, ?_, hworks, ?_⟩
    · change store.writing _ = _
      rw [writing, hworks]
    · exact fun k => lookup_filter_ne key k

/-! ## Records of subscribers -/

namespace Replica

variable {σ : Type} {works : σ → Prop} {get? : σ → String → Option String} {r : Replica σ}

theorem key_inj {imsi imsi' : String} : r.key imsi = r.key imsi' ↔ imsi = imsi' :=
  String.append_right_inj (r.config.keyPrefix ++ "_")

/-- The record of a subscriber, as it is read from the store. -/
def record? (get? : σ → String → Option String) (r : Replica σ) (imsi : String) : Option String :=
  get? r.store (r.key imsi)

/-- The replica is in use and connected to a store that works. -/
structure Serving (works : σ → Prop) (r : Replica σ) : Prop where
  ready : r.isReady = true
  store : works r.store

variable [KeyValueStore σ]

/-- An update writes under the key of the subscriber and nowhere else. -/
theorem value_update_of_serving (hstore : Reliable works get?) (h : r.Serving works) (s : Session)
    (node : String) :
    ∃ store, (r.update s node).value = { r with store } ∧ works store ∧ ∀ k, get? store k =
      if k = r.key s.imsi then some (Record.ofSession s node r.now).text else get? r.store k := by
  obtain ⟨store, hset, hworks, hget⟩ :=
    hstore.set_ok h.store (r.key s.imsi) (Record.ofSession s node r.now).text
  refine ⟨store, ?_, hworks, hget⟩
  rw [update, whenReady, if_pos h.ready]
  simp only [Traced.value_bind, hset]
  rfl

/-- A removal deletes under the key of the subscriber and nowhere else. -/
theorem value_remove_of_serving (hstore : Reliable works get?) (h : r.Serving works)
    (s : Session) :
    ∃ store, (r.remove s).value = { r with store } ∧ works store ∧ ∀ k, get? store k =
      if k = r.key s.imsi then none else get? r.store k := by
  obtain ⟨store, hdelete, hworks, hget⟩ := hstore.delete_ok h.store (r.key s.imsi)
  refine ⟨store, ?_, hworks, hget⟩
  rw [remove, whenReady, if_pos h.ready]
  simp only [Traced.value_bind, hdelete]
  rfl

/-- An update writes the record of one subscriber and keeps all others. -/
theorem update_of_serving (hstore : Reliable works get?) (h : r.Serving works) (s : Session)
    (node : String) :
    (r.update s node).value.Serving works ∧ ∀ imsi, (r.update s node).value.record? get? imsi =
      if imsi = s.imsi then some (Record.ofSession s node r.now).text else r.record? get? imsi := by
  obtain ⟨store, hvalue, hworks, hget⟩ := value_update_of_serving hstore h s node
  rw [hvalue]
  refine ⟨⟨h.ready, hworks⟩, fun imsi => ?_⟩
  have hread := hget (r.key imsi)
  simp only [key_inj] at hread
  exact hread

/-- A removal deletes the record of one subscriber and keeps all others. -/
theorem remove_of_serving (hstore : Reliable works get?) (h : r.Serving works) (s : Session) :
    (r.remove s).value.Serving works ∧ ∀ imsi, (r.remove s).value.record? get? imsi =
      if imsi = s.imsi then none else r.record? get? imsi := by
  obtain ⟨store, hvalue, hworks, hget⟩ := value_remove_of_serving hstore h s
  rw [hvalue]
  refine ⟨⟨h.ready, hworks⟩, fun imsi => ?_⟩
  have hread := hget (r.key imsi)
  simp only [key_inj] at hread
  exact hread

end Replica

namespace Controller

variable {σ : Type} {works : σ → Prop} {get? : σ → String → Option String}
  {c c' c₀ : Controller σ}

/-! ## Records of live sessions -/

/-- Every live session has a record. -/
def Covered (get? : σ → String → Option String) (c : Controller σ) : Prop :=
  ∀ id s, c.table.find? id = some s → (c.replica.record? get? s.imsi).isSome

/-- A session that one controller has is not in the other one, which still has a session of the same
subscriber. -/
def LeavesBehind (c c' : Controller σ) : Prop :=
  ∃ id s, c.table.find? id = some s ∧ c'.table.find? id = none ∧
    ∃ id' s', c'.table.find? id' = some s' ∧ s'.imsi = s.imsi

theorem not_leavesBehind_of_isSome
    (h : ∀ id, (c.table.find? id).isSome → (c'.table.find? id).isSome) : ¬c.LeavesBehind c' := by
  rintro ⟨id, s, hs, hnone, -⟩
  have hsome := h id (Option.isSome_of_mem hs)
  rw [hnone] at hsome
  exact Bool.false_ne_true hsome

/-- A session that is put in the place of another one of its subscriber has the same record, and
perhaps a newer one. -/
theorem covered_iff_of_put {id : UInt64} {s s' : Session} (hcovered : c.Covered get?)
    (hs : c.table.find? id = some s) (himsi : s'.imsi = s.imsi)
    (htable : c'.table = c.table.put id s')
    (hrecord : ∀ imsi, (c.replica.record? get? imsi).isSome →
      (c'.replica.record? get? imsi).isSome) :
    c'.Covered get? ↔ ¬c.LeavesBehind c' := by
  have hfind : ∀ j, c'.table.find? j = if j = id then some s' else c.table.find? j := by
    intro j
    rw [htable, SessionTable.find?_put, hs, Option.map_some]
  refine iff_of_true ?_ (not_leavesBehind_of_isSome ?_)
  · intro j t ht
    apply hrecord
    rw [hfind] at ht
    by_cases hj : j = id
    · rw [if_pos hj] at ht
      rw [← Option.some.inj ht, himsi]
      exact hcovered id s hs
    · rw [if_neg hj] at ht
      exact hcovered j t ht
  · intro j hj
    rw [hfind]
    split
    · rfl
    · exact hj

/-- A session that is taken out takes the record of its subscriber with it. -/
theorem covered_iff_of_erase {id : UInt64} {s s' : Session} (hcovered : c.Covered get?)
    (hs : c.table.find? id = some s) (himsi : s'.imsi = s.imsi)
    (htable : c'.table = c.table.erase id)
    (hrecord : ∀ imsi, c'.replica.record? get? imsi =
      if imsi = s'.imsi then none else c.replica.record? get? imsi) :
    c'.Covered get? ↔ ¬c.LeavesBehind c' := by
  have hfind : ∀ j, c'.table.find? j = if j = id then none else c.table.find? j := by
    intro j
    rw [htable, SessionTable.find?_erase]
  constructor
  · rintro hcovered' ⟨j, t, ht, hnone, j', t', ht', htwin⟩
    -- Only the session that is taken out is missing, so the other one lacks a record.
    have hj : j = id := by
      by_contra hne
      rw [hfind, if_neg hne, ht] at hnone
      cases hnone
    have hts : t = s := by
      rw [hj, hs] at ht
      exact (Option.some.inj ht).symm
    have hsome := hcovered' j' t' ht'
    rw [hrecord, if_pos (by rw [htwin, hts, himsi])] at hsome
    exact Bool.false_ne_true hsome
  · intro hnone j t ht
    have hfound := ht
    rw [hfind] at hfound
    by_cases hj : j = id
    · rw [if_pos hj] at hfound
      cases hfound
    · rw [if_neg hj] at hfound
      have htwin : t.imsi ≠ s'.imsi := by
        intro htwin
        refine hnone ⟨id, s, hs, ?_, j, t, ht, htwin.trans himsi⟩
        rw [hfind, if_pos rfl]
      rw [hrecord, if_neg htwin]
      exact hcovered j t hfound

/-! ## One operation -/

variable [KeyValueStore σ] {op : Operation}

theorem serving_removeSession (hstore : Reliable works get?) (hserving : c.replica.Serving works)
    (id : UInt64) : (c.removeSession id).value.2.replica.Serving works := by
  cases hfound : c.table.find? id with
  | none =>
    rw [value_removeSession_of_none hfound]
    exact hserving
  | some s =>
    rw [value_removeSession hfound]
    exact (Replica.remove_of_serving hstore hserving s).1

/-- The replica stays connected to a store that works. -/
theorem serving_of_effect (hstore : Reliable works get?) (hserving : c.replica.Serving works)
    (h : c.Effect op c') : c'.replica.Serving works := by
  cases h with
  | added hs => exact (Replica.update_of_serving hstore hserving _ _).1
  | removed hs => exact (Replica.remove_of_serving hstore hserving _).1
  | finished hs hs' hstate => exact (Replica.remove_of_serving hstore hserving _).1
  | stepped hs hs' hstate => exact (Replica.update_of_serving hstore hserving _ _).1
  | informed hs hs' => exact hserving
  | cleared =>
    exact inv_removeEach (P := fun c => c.replica.Serving works)
      (fun c id hc => serving_removeSession hstore hc id) _ hserving
  | unknown hop hnone => exact hserving

/-- Where every live session has a record before an operation, every one has a record after it,
unless the operation takes a session out and leaves another one of its subscriber behind. -/
theorem covered_iff_of_effect (hstore : Reliable works get?) (hserving : c.replica.Serving works)
    (hcovered : c.Covered get?) (hkeeps : op.Keeps Session.imsi) (h : c.Effect op c') :
    c'.Covered get? ↔ ¬c.LeavesBehind c' := by
  cases h with
  | @added imsi name s hs =>
    obtain ⟨-, hrecord⟩ := Replica.update_of_serving hstore hserving s c.config.name
    have hfind : ∀ j, (c.table.number.2.insert s.id s).find? j =
        (c.table.find? j).or (if j = s.id then some s else none) :=
      fun j => SessionTable.find?_insert c.table.number.2 s.id j s
    refine iff_of_true ?_ (not_leavesBehind_of_isSome ?_)
    · intro j t ht
      rw [hfind] at ht
      change ((c.replica.update s c.config.name).value.record? get? t.imsi).isSome
      rw [hrecord]
      by_cases himsi : t.imsi = s.imsi
      · rw [if_pos himsi]
        rfl
      · rw [if_neg himsi]
        obtain hold | ⟨-, hnew⟩ := Option.or_eq_some_iff.mp ht
        · exact hcovered j t hold
        · split at hnew
          · rw [Option.some.inj hnew] at himsi
            exact absurd rfl himsi
          · cases hnew
    · intro j hj
      rw [hfind, Option.isSome_or, hj, Bool.true_or]
  | @removed id s hs =>
    obtain ⟨-, hrecord⟩ := Replica.remove_of_serving hstore hserving s
    exact covered_iff_of_erase hcovered hs rfl rfl hrecord
  | @finished id peers event s s' hs hs' hstate =>
    obtain ⟨-, hrecord⟩ := Replica.remove_of_serving hstore hserving s'
    refine covered_iff_of_erase hcovered hs ?_ rfl hrecord
    rw [hs', Session.session_dispatch]
  | @stepped id peers event s s' hs hs' hstate =>
    obtain ⟨-, hrecord⟩ := Replica.update_of_serving hstore hserving s' c.config.name
    refine covered_iff_of_put hcovered hs ?_ rfl fun imsi himsi => ?_
    · rw [hs', Session.session_dispatch]
    · rw [hrecord]
      split
      · rfl
      · exact himsi
  | @informed id m bind s s' answer hs hs' =>
    refine covered_iff_of_put hcovered hs ?_ rfl fun _ h => h
    exact Session.keeps_handlePolicyWith hkeeps
      (fun s₁ hpolicy => by rw [Session.frame_handlePolicy hpolicy]) hs'
  | cleared =>
    refine iff_of_true ?_ ?_
    · intro j t ht
      rw [find?_removeAll] at ht
      cases ht
    · rintro ⟨-, -, -, -, j, t, ht, -⟩
      rw [find?_removeAll] at ht
      cases ht
  | unknown hop hnone => exact iff_of_true hcovered (not_leavesBehind_of_isSome fun _ h => h)

/-! ## Runs -/

theorem serving_of_performAll (hstore : Reliable works get?) (hserving : c₀.replica.Serving works)
    {operations : List Operation} (hok : (c₀.performAll operations).result = .ok c) :
    c.replica.Serving works := by
  refine inv_foldlM (P := fun c => c.replica.Serving works) ?_ hserving hok
  intro op _ c c' hc hstep
  exact serving_of_effect hstore hc (effect_of_perform hstep)

/-- Over any run from a controller without sessions, with its replica connected to a store that
never fails, every live session has a record after every operation exactly if no operation takes a
session out while another one of the same subscriber is live. Engines that bind pushed rules may do
anything with a session but give it to another subscriber. -/
theorem covered_iff_of_performAll (hstore : Reliable works get?)
    (hready : c₀.replica.isReady = true) (hworks : works c₀.replica.store)
    (hempty : c₀.table.entries = []) (operations : List Operation)
    (hkeeps : ∀ op ∈ operations, op.Keeps Session.imsi) :
    (∀ before after c, operations = before ++ after →
        (c₀.performAll before).result = .ok c → c.Covered get?) ↔
      ∀ before op after c c', operations = before ++ op :: after →
        (c₀.performAll before).result = .ok c → (c.perform op).result = .ok c' →
          ¬c.LeavesBehind c' := by
  have hstep : ∀ {before op after c c'}, operations = before ++ op :: after →
      (c₀.performAll before).result = .ok c → (c.perform op).result = .ok c' → c.Covered get? →
        (c'.Covered get? ↔ ¬c.LeavesBehind c') := by
    intro before op after c c' hoperations hbefore hop hcovered
    exact covered_iff_of_effect hstore (serving_of_performAll hstore ⟨hready, hworks⟩ hbefore)
      hcovered (hkeeps op (by simp [hoperations])) (effect_of_perform hop)
  constructor
  · intro hall before op after c c' hoperations hbefore hop
    have hafter : (c₀.performAll (before ++ [op])).result = .ok c' :=
      result_performAll_concat.mpr ⟨c, hbefore, hop⟩
    refine (hstep hoperations hbefore hop (hall before (op :: after) c hoperations hbefore)).mp ?_
    refine hall (before ++ [op]) after c' ?_ hafter
    rw [hoperations, List.append_assoc, List.singleton_append]
  · intro hnone before
    induction before using List.reverseRecOn with
    | nil =>
      intro after c _ hok id s hs
      obtain rfl := Except.ok.inj hok
      rw [SessionTable.find?, hempty] at hs
      cases hs
    | append_singleton before op ih =>
      intro after c' hoperations hok
      obtain ⟨c, hbefore, hop⟩ := result_performAll_concat.mp hok
      rw [List.append_assoc, List.singleton_append] at hoperations
      have hcovered := ih (op :: after) c hoperations hbefore
      exact (hstep hoperations hbefore hop hcovered).mpr
        (hnone before op after c c' hoperations hbefore hop)

/-! ## Two sessions of a subscriber -/

/-- A controller without sessions, whose replica is connected to an empty store in memory. -/
def watched : Controller MemoryStore where
  config := { replica := { enabled := true } }
  timer := ({ replica := { enabled := true } } : Config).responseTimer
  replica := { config := { enabled := true }, store := {}, connected := true }

/-- A subscriber has a session for each of two networks, and the first one is removed. -/
def twins : List Operation :=
  [.add "001010000000001" (some "internet"), .add "001010000000001" (some "ims"), .remove 1]

/-- The session that is left has no record. -/
theorem exists_performAll_twins : ∃ c, (watched.performAll twins).result = .ok c ∧
    ¬c.Covered MemoryStore.get? := by
  refine ⟨_, rfl, fun hcovered => ?_⟩
  have hrecord := hcovered 2 _ rfl
  revert hrecord
  decide

/-- No engine gets a session in between. -/
theorem keeps_twins {β : Type} (f : Session → β) : ∀ op ∈ twins, op.Keeps f := by
  simp [twins, Operation.Keeps]

/-- It is not so that every live session has a record after every run, even if engines leave
sessions alone. -/
theorem not_forall_covered : ¬∀ (c₀ c : Controller MemoryStore) (operations : List Operation),
    (∀ op ∈ operations, op.Keeps id) → c₀.replica.isReady = true → c₀.replica.store = {} →
      c₀.table = {} → (c₀.performAll operations).result = .ok c → c.Covered MemoryStore.get? := by
  intro hall
  obtain ⟨c, hok, hnot⟩ := exists_performAll_twins
  exact hnot (hall watched c twins (keeps_twins id) rfl rfl rfl hok)

theorem exists_leavesBehind_twins : ∃ before op after c c', twins = before ++ op :: after ∧
    (watched.performAll before).result = .ok c ∧ (c.perform op).result = .ok c' ∧
      c.LeavesBehind c' := by
  by_contra hnone
  have hcovered : ∀ before after c, twins = before ++ after →
      (watched.performAll before).result = .ok c → c.Covered MemoryStore.get? := by
    refine (covered_iff_of_performAll MemoryStore.reliable rfl rfl rfl twins
      (keeps_twins Session.imsi)).mpr ?_
    intro before op after c c' hoperations hbefore hop hbehind
    exact hnone ⟨before, op, after, c, c', hoperations, hbefore, hop, hbehind⟩
  obtain ⟨c, hok, hnot⟩ := exists_performAll_twins
  exact hnot (hcovered twins [] c (List.append_nil twins).symm hok)

end Controller

end SessionControl
