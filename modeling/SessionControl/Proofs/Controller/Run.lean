import SessionControl.Controller.Basic
import SessionControl.Proofs.Policy.Refusal
import SessionControl.Proofs.Roaming.Step

/-!
# Runs of a controller

A controller is asked for one thing after another: to add and remove sessions, and to give events
and messages to them. Its table is a map from numbers to sessions, and an operation changes one
session of the map and its record in the replica.

## Main definitions

- `Controller.Operation`, `Controller.perform` — what a controller can be asked for
- `Controller.Operation.Keeps` — an engine keeps something of the sessions that it gets
- `Controller.performAll` — one operation after another
- `Controller.Effect` — what an operation can come to
- `SessionTable.Numbered` — the numbers of the sessions were counted up

## Main statements

- `SessionTable.find?_insert`, `SessionTable.find?_put`, `SessionTable.find?_erase` — the table is
  a map from numbers to sessions
- `Controller.find?_removeAll` — no session is left after all of them have been removed
- `Controller.effect_of_perform` — an operation that meets no fault has one of its effects
- `Controller.numbered_of_performAll` — a run counts the numbers of its sessions up
-/

namespace SessionControl

open Attempt

/-! ## The session table as a map -/

namespace SessionTable

variable {t : SessionTable}

theorem find?_insert (t : SessionTable) (id j : UInt64) (s : Session) :
    (t.insert id s).find? j = (t.find? j).or (if j = id then some s else none) := by
  rw [insert]
  split
  · next htaken =>
    by_cases hj : j = id
    · obtain ⟨s₀, hs₀⟩ := Option.isSome_iff_exists.mp htaken
      rw [hj, hs₀, Option.some_or]
    · rw [if_neg hj, Option.or_none]
  · rw [find?, List.lookup_append, find?, List.lookup_cons]
    by_cases hj : j = id
    · simp [hj]
    · have hne : (j == id) = false := beq_false_of_ne hj
      simp [hj, hne]

theorem find?_put (t : SessionTable) (id j : UInt64) (s : Session) :
    (t.put id s).find? j = if j = id then (t.find? id).map fun _ => s else t.find? j :=
  lookup_put id j s

theorem find?_put_self {id : UInt64} {s s' : Session} (h : t.find? id = some s) :
    (t.put id s').find? id = some s' := by
  rw [find?_put, if_pos rfl, h, Option.map_some]

theorem find?_erase (t : SessionTable) (id j : UInt64) :
    (t.erase id).find? j = if j = id then none else t.find? j :=
  lookup_filter_ne id j

/-- A session that is taken out leaves nothing of what was put in its place before. -/
theorem erase_put (t : SessionTable) (id : UInt64) (s : Session) :
    (t.put id s).erase id = t.erase id := by
  simp only [put, erase]
  congr 1
  induction t.entries with
  | nil => rfl
  | cons e entries ih =>
    rw [List.map_cons, List.filter_cons, List.filter_cons, ih]
    by_cases he : e.1 = id
    · simp [he]
    · simp [he]

theorem mem_entries_of_find? {id : UInt64} {s : Session} (h : t.find? id = some s) :
    (id, s) ∈ t.entries := by
  obtain ⟨before, after, hentries, -⟩ := List.lookup_eq_some_iff.mp h
  rw [hentries]
  exact List.mem_append_right before List.mem_cons_self

theorem mem_ids_of_find? {id : UInt64} {s : Session} (h : t.find? id = some s) :
    id ∈ t.entries.map Prod.fst :=
  List.mem_map_of_mem (mem_entries_of_find? h)

end SessionTable

namespace Controller

variable {σ : Type} [KeyValueStore σ] {c c' : Controller σ}

/-! ## Operations -/

/-- What a controller can be asked for: sessions are added and removed, and a session gets an event
for its roaming machine, with whatever the collaborators answer, or a message of the policy
server, with whatever the engine that binds pushed rules does with the session. -/
inductive Operation where
  | add (imsi : String) (name : Option String)
  | remove (id : UInt64)
  | dispatch (id : UInt64) (peers : Peers) (event : Roaming.Event)
  | handlePolicy (id : UInt64) (m : Policy.Message) (bind : Session → Attempt Session)
  | removeAll

/-- An engine that gets a session in this operation keeps what `f` tells of it. Engines that leave
sessions alone keep everything. -/
def Operation.Keeps {β : Type} (f : Session → β) : Operation → Prop
  | .handlePolicy _ _ bind => ∀ s s', (bind s).result = .ok s' → f s' = f s
  | .add _ _ | .remove _ | .dispatch _ _ _ | .removeAll => True

/-- An engine that takes up the rules of a session: it has the user plane modified, and leaves none
of them stored. -/
def takeUp (s : Session) : Attempt Session := do
  Traced.call (.userPlane .modify s.imsi s.machine)
  pure { s with rules := [] }

@[simp]
theorem result_takeUp (s : Session) : (takeUp s).result = .ok { s with rules := [] } :=
  rfl

/-- Rules are pushed to a session and taken up. -/
def pushing (id : UInt64) : Operation :=
  .handlePolicy id { kind := .reauthorize, decision := { rules := [{ name := "video" }] } } takeUp

def perform (c : Controller σ) : Operation → Attempt (Controller σ)
  | .add imsi name => do
    let (_, c) ← c.addSession imsi name
    pure c
  | .remove id => do
    let (_, c) ← c.removeSession id
    pure c
  | .dispatch id peers event => do
    let (_, c) ← c.dispatch id peers event
    pure c
  | .handlePolicy id m bind => do
    let (_, c) ← c.handlePolicy id m bind
    pure c
  | .removeAll => c.removeAll

def performAll (c : Controller σ) (operations : List Operation) : Attempt (Controller σ) :=
  operations.foldlM perform c

theorem result_performAll_concat {operations : List Operation} {op : Operation} :
    (c.performAll (operations ++ [op])).result = .ok c' ↔
      ∃ c₁, (c.performAll operations).result = .ok c₁ ∧ (c₁.perform op).result = .ok c' := by
  rw [performAll, List.foldlM_append, result_bind_eq_ok]
  simp only [List.foldlM_cons, List.foldlM_nil, bind_pure]
  rfl

/-! ## What comes of an operation -/

theorem removeSession_of_none {id : UInt64} (h : c.table.find? id = none) :
    c.removeSession id = pure (none, c) := by
  rw [removeSession, h]

theorem dispatch_of_none {id : UInt64} (h : c.table.find? id = none) (peers : Peers)
    (event : Roaming.Event) : c.dispatch id peers event = pure (.error (.notFound id), c) := by
  rw [dispatch, h]

omit [KeyValueStore σ] in
theorem handlePolicy_of_none {id : UInt64} (h : c.table.find? id = none) (m : Policy.Message)
    (bind : Session → Attempt Session) :
    c.handlePolicy id m bind = pure (.error (.notFound id), c) := by
  rw [handlePolicy, h]

theorem value_removeSession {id : UInt64} {s : Session} (h : c.table.find? id = some s) :
    (c.removeSession id).value.2 =
      { c with replica := (c.replica.remove s).value, table := c.table.erase id } := by
  rw [removeSession, h]
  rfl

theorem value_removeSession_of_none {id : UInt64} (h : c.table.find? id = none) :
    (c.removeSession id).value.2 = c := by
  rw [removeSession_of_none h]
  rfl

/-- What every removal keeps is kept by the removal of all sessions. -/
theorem inv_removeEach {P : Controller σ → Prop}
    (hstep : ∀ c id, P c → P (c.removeSession id).value.2) (ids : List UInt64) (hc : P c) :
    P (removeEach ids c).value := by
  induction ids generalizing c with
  | nil => exact hc
  | cons id ids ih => exact ih (hstep c id hc)

theorem find?_removeSession (c : Controller σ) (id j : UInt64) :
    (c.removeSession id).value.2.table.find? j = if j = id then none else c.table.find? j := by
  cases hfound : c.table.find? id with
  | none =>
    rw [value_removeSession_of_none hfound]
    split
    · next hj => rw [hj, hfound]
    · rfl
  | some s =>
    rw [value_removeSession hfound]
    exact c.table.find?_erase id j

theorem find?_removeEach (ids : List UInt64) (c : Controller σ) (j : UInt64) :
    (removeEach ids c).value.table.find? j = if j ∈ ids then none else c.table.find? j := by
  induction ids generalizing c with
  | nil => rw [if_neg List.not_mem_nil]; rfl
  | cons id ids ih =>
    have hrest := ih (c.removeSession id).value.2
    rw [find?_removeSession] at hrest
    rw [removeEach, Traced.value_bind, hrest]
    by_cases hj : j = id
    · rw [if_pos hj, ite_self, if_pos (hj ▸ List.mem_cons_self)]
    · by_cases hmem : j ∈ ids
      · rw [if_pos hmem, if_pos (List.mem_cons_of_mem id hmem)]
      · rw [if_neg hmem, if_neg hj, if_neg (List.not_mem_cons_of_ne_of_not_mem hj hmem)]

/-- No session is left after all of them have been removed. -/
theorem find?_removeAll (c : Controller σ) (j : UInt64) :
    c.removeAll.value.table.find? j = none := by
  rw [removeAll, find?_removeEach]
  split
  · rfl
  · next hj =>
    rw [Option.eq_none_iff_forall_not_mem]
    intro s hs
    exact hj (SessionTable.mem_ids_of_find? hs)

theorem value_settle {id : UInt64} {s : Session} (h : s.state ≠ .final) :
    (c.settle id s).value = { c with
      replica := (c.replica.update s c.config.name).value, table := c.table.put id s } := by
  rw [settle, if_neg h]
  rfl

theorem value_settle_of_final {id : UInt64} {s s₀ : Session} (h : s.state = .final)
    (hfound : c.table.find? id = some s₀) : (c.settle id s).value =
      { c with replica := (c.replica.remove s).value, table := c.table.erase id } := by
  have hput : ({ c with table := c.table.put id s } : Controller σ).table.find? id = some s :=
    SessionTable.find?_put_self hfound
  rw [settle, if_pos h, Traced.value_bind, Traced.value_pure, value_removeSession hput,
    SessionTable.erase_put]

theorem value_dispatch {id : UInt64} {s : Session} (h : c.table.find? id = some s) (peers : Peers)
    (event : Roaming.Event) :
    (c.dispatch id peers event).value =
      (.ok (s.dispatch c.timer peers event).value.1,
        (c.settle id (s.dispatch c.timer peers event).value.2).value) := by
  rw [dispatch, h]
  rfl

/-- The session that an operation is about, if it is about a single one that has been added. -/
def Operation.target? : Operation → Option UInt64
  | .add _ _ | .removeAll => none
  | .remove id | .dispatch id _ _ | .handlePolicy id _ _ => some id

/-- What an operation comes to. A session is removed by request or because its machine has
finished; a message of the policy server does not show in the replica; and nothing happens to a
controller that is asked about a session it does not have. -/
inductive Effect (c : Controller σ) : Operation → Controller σ → Prop
  | added {imsi : String} {name : Option String} {s : Session}
      (hs : s = (Session.new c.table.nextId c.table.nextIndex imsi name).startMachine.value) :
      Effect c (.add imsi name) { c with
        replica := (c.replica.update s c.config.name).value
        table := c.table.number.2.insert s.id s }
  | removed {id : UInt64} {s : Session} (hs : c.table.find? id = some s) :
      Effect c (.remove id) { c with
        replica := (c.replica.remove s).value, table := c.table.erase id }
  | finished {id : UInt64} {peers : Peers} {event : Roaming.Event} {s s' : Session}
      (hs : c.table.find? id = some s) (hs' : s' = (s.dispatch c.timer peers event).value.2)
      (hstate : s'.state = .final) :
      Effect c (.dispatch id peers event) { c with
        replica := (c.replica.remove s').value, table := c.table.erase id }
  | stepped {id : UInt64} {peers : Peers} {event : Roaming.Event} {s s' : Session}
      (hs : c.table.find? id = some s) (hs' : s' = (s.dispatch c.timer peers event).value.2)
      (hstate : s'.state ≠ .final) :
      Effect c (.dispatch id peers event) { c with
        replica := (c.replica.update s' c.config.name).value, table := c.table.put id s' }
  | informed {id : UInt64} {m : Policy.Message} {bind : Session → Attempt Session}
      {s s' : Session} {answer : Option UInt32} (hs : c.table.find? id = some s)
      (hs' : (s.handlePolicyWith c.config m bind).result = .ok (answer, s')) :
      Effect c (.handlePolicy id m bind) { c with table := c.table.put id s' }
  | cleared : Effect c .removeAll c.removeAll.value
  | unknown {op : Operation} {id : UInt64} (hop : op.target? = some id)
      (hnone : c.table.find? id = none) : Effect c op c

theorem effect_of_perform {op : Operation} (hok : (c.perform op).result = .ok c') :
    c.Effect op c' := by
  cases op with
  | add imsi name =>
    obtain rfl := Except.ok.inj hok
    exact .added rfl
  | remove id =>
    have hc' : c' = (c.removeSession id).value.2 := (Except.ok.inj hok).symm
    cases hfound : c.table.find? id with
    | none =>
      rw [hc', value_removeSession_of_none hfound]
      exact .unknown rfl hfound
    | some s =>
      rw [hc', value_removeSession hfound]
      exact .removed hfound
  | dispatch id peers event =>
    have hc' : c' = (c.dispatch id peers event).value.2 := (Except.ok.inj hok).symm
    cases hfound : c.table.find? id with
    | none =>
      rw [hc', dispatch_of_none hfound]
      exact .unknown rfl hfound
    | some s =>
      rw [hc', value_dispatch hfound]
      by_cases hstate : (s.dispatch c.timer peers event).value.2.state = .final
      · rw [value_settle_of_final hstate hfound]
        exact .finished hfound rfl hstate
      · rw [value_settle hstate]
        exact .stepped hfound rfl hstate
  | handlePolicy id m bind =>
    simp only [perform, result_bind_eq_ok, result_pure, Except.ok.injEq] at hok
    obtain ⟨⟨answer, c₁⟩, hhandle, rfl⟩ := hok
    cases hfound : c.table.find? id with
    | none =>
      rw [handlePolicy_of_none hfound, result_pure, Except.ok.injEq, Prod.mk.injEq] at hhandle
      obtain ⟨-, rfl⟩ := hhandle
      exact .unknown rfl hfound
    | some s =>
      simp only [handlePolicy, hfound, result_bind_eq_ok, result_pure, Except.ok.injEq,
        Prod.mk.injEq] at hhandle
      obtain ⟨⟨code, s'⟩, hs', -, rfl⟩ := hhandle
      exact .informed hfound hs'
  | removeAll =>
    obtain rfl := Except.ok.inj hok
    exact .cleared

end Controller

/-! ## Numbers of sessions -/

namespace SessionTable

variable {t : SessionTable} {n : Nat}

/-- After `n` additions: the numbers from one to `n` have been given, as far as a number of a
session reaches, and every session has one of them. -/
structure Numbered (n : Nat) (t : SessionTable) : Prop where
  next : t.nextId = UInt64.ofNat (n + 1)
  given : ∀ id, (t.find? id).isSome → ∃ k, 0 < k ∧ k ≤ n ∧ id = UInt64.ofNat k

theorem numbered_empty : Numbered 0 {} where
  next := rfl
  given := by
    intro id hid
    cases hid

/-- The next number is free as long as the numbers do not wrap around. -/
theorem Numbered.find?_nextId (h : t.Numbered n) (hn : n < UInt64.size) :
    t.find? t.nextId = none := by
  by_contra hsome
  obtain ⟨k, hpos, hk, hid⟩ := h.given t.nextId (Option.isSome_iff_ne_none.mpr hsome)
  have hnat : (n + 1) % UInt64.size = k % UInt64.size := by
    rw [h.next] at hid
    exact congrArg UInt64.toNat hid
  simp only [UInt64.size] at hn hnat
  omega

theorem Numbered.insert (h : t.Numbered n) (s : Session) :
    (t.number.2.insert t.nextId s).Numbered (n + 1) where
  next := by
    have hnext : (t.number.2.insert t.nextId s).nextId = t.nextId + 1 := by
      rw [SessionTable.insert]
      split <;> rfl
    rw [hnext, h.next, ← UInt64.ofNat_one, ← UInt64.ofNat_add]
  given := by
    intro id hid
    rw [find?_insert, Option.isSome_or, Bool.or_eq_true] at hid
    obtain hold | hnew := hid
    · obtain ⟨k, hpos, hk, hid⟩ := h.given id hold
      exact ⟨k, hpos, Nat.le_succ_of_le hk, hid⟩
    · split at hnew
      · next hid => exact ⟨n + 1, n.succ_pos, le_rfl, hid.trans h.next⟩
      · cases hnew

theorem Numbered.mono {t' : SessionTable} (h : t.Numbered n) (hnext : t'.nextId = t.nextId)
    (hsub : ∀ id, (t'.find? id).isSome → (t.find? id).isSome) : t'.Numbered n where
  next := hnext.trans h.next
  given := fun id hid => h.given id (hsub id hid)

theorem Numbered.put (h : t.Numbered n) (id : UInt64) (s : Session) :
    (t.put id s).Numbered n := by
  refine h.mono rfl fun j hj => ?_
  rw [find?_put] at hj
  split at hj
  · next heq => rwa [heq, ← Option.isSome_map]
  · exact hj

theorem Numbered.erase (h : t.Numbered n) (id : UInt64) : (t.erase id).Numbered n := by
  refine h.mono rfl fun j hj => ?_
  rw [find?_erase] at hj
  split at hj
  · cases hj
  · exact hj

end SessionTable

namespace Controller

variable {σ : Type} [KeyValueStore σ] {c c' c₀ : Controller σ} {op : Operation} {n : Nat}

def Operation.isAddition : Operation → Bool
  | .add _ _ => true
  | .remove _ | .dispatch _ _ _ | .handlePolicy _ _ _ | .removeAll => false

theorem numbered_of_effect (hc : c.table.Numbered n) (h : c.Effect op c') :
    c'.table.Numbered (n + if op.isAddition then 1 else 0) := by
  cases h with
  | added hs =>
    rw [hs]
    exact hc.insert _
  | removed hs => exact hc.erase _
  | finished hs hs' hstate => exact hc.erase _
  | stepped hs hs' hstate => exact hc.put _ _
  | informed hs hs' => exact hc.put _ _
  | cleared =>
    refine inv_removeEach (P := fun c => c.table.Numbered n) ?_ _ hc
    intro c id hc
    cases hfound : c.table.find? id with
    | none =>
      rw [value_removeSession_of_none hfound]
      exact hc
    | some s =>
      rw [value_removeSession hfound]
      exact hc.erase id
  | @unknown op id hop hnone =>
    cases op with
    | add imsi name => cases hop
    | remove | dispatch | handlePolicy | removeAll => exact hc

/-- A run counts the numbers of its sessions up, one for each addition. -/
theorem numbered_of_performAll (hnew : c₀.table = {}) {operations : List Operation}
    (hok : (c₀.performAll operations).result = .ok c) :
    c.table.Numbered (operations.countP (·.isAddition)) := by
  induction operations using List.reverseRecOn generalizing c with
  | nil =>
    obtain rfl := Except.ok.inj hok
    rw [hnew]
    exact SessionTable.numbered_empty
  | append_singleton operations op ih =>
    obtain ⟨c₁, hrun, hop⟩ := result_performAll_concat.mp hok
    rw [List.countP_append, List.countP_singleton]
    exact numbered_of_effect (ih hrun) (effect_of_perform hop)

end Controller

end SessionControl
