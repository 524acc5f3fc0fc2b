import SessionControl.Proofs.Json.Reader
import SessionControl.Proofs.Replica.Coverage

/-!
# What the replica shows

A live session may be without a record, but a record is never without its session. The record of a
subscriber was written by one of their sessions, and whatever happens to that session afterwards
writes the record again or deletes it; so does the removal of any other session of the subscriber.
What is shown is what is read back from the text of a record.

## Main definitions

- `Controller.Shows` — a record is about a live session and gives its present state
- `Controller.UpToDate` — every record in the store is in its place and shows a live session

## Main statements

- `Record.parse?_text` — a record is read back from its text
- `Controller.upToDate_of_effect` — one operation keeps the records up to date
- `Controller.upToDate_of_performAll` — so does a run, and nothing is left after a removal of all
-/

namespace SessionControl

open Attempt

/-! ## Reading records -/

namespace Record

theorem optionalText?_ofOption (o : Option String) :
    optionalText? (some (.ofOption .ofText o)) = some o := by
  cases o <;> rfl

theorem ofJson?_toJson (r : Record) : ofJson? r.toJson = some r := by
  have hmembers : members? r.toJson = some
      [some (.ofText r.imsi), some (.ofOption .ofText r.network), some (.ofOption .ofText r.ipv4),
        some (.ofOption .ofText r.ipv6), some (.ofText r.state), some (.ofText r.node),
        some (.natural r.timestamp.toNat)] := rfl
  have htime := Json.natural?_natural r.timestamp.toNat_lt
  simp [ofJson?, hmembers, optionalText?_ofOption, htime]
  rfl

/-- A record is read back from its text. -/
theorem parse?_text (r : Record) : parse? r.text = some r := by
  have hjson : Json.parse? r.text = some r.toJson := by
    refine Json.parse?_render_ofMembers (List.cons_ne_nil _ _) ?_
    simp [memberNames, Json.readsBack_ofText, Json.readsBack_ofOption, Json.readsBack_natural]
  simp [parse?, hjson, ofJson?_toJson]

end Record

namespace Controller

variable {σ : Type} {works : σ → Prop} {get? : σ → String → Option String}
  {c c' c₀ : Controller σ} {s s' : Session} {id : UInt64}

/-! ## Records and the sessions that they are about -/

/-- What tells whether a record is about a session and up to date. -/
def shown (s : Session) : String × Option String × Roaming.State :=
  (s.imsi, s.name, s.state)

/-- A record is about a session that is live, for the network that it names and in the state that
it gives. -/
def Shows (c : Controller σ) (record : Record) : Prop :=
  ∃ id s, c.table.find? id = some s ∧ s.imsi = record.imsi ∧ s.name = record.network ∧
    s.state.name = record.state

/-- What is in the store are texts of records. The record that is read from a text is under the key
of its own subscriber and shows a live session. -/
def UpToDate (get? : σ → String → Option String) (c : Controller σ) : Prop :=
  ∀ key text, get? c.replica.store key = some text →
    ∃ record, Record.parse? text = some record ∧ text = record.text ∧
      key = c.replica.key record.imsi ∧ c.Shows record

theorem shows_ofSession (hs : c.table.find? id = some s) (node : String) (time : UInt64) :
    c.Shows (Record.ofSession s node time) :=
  ⟨id, s, hs, rfl, rfl, rfl⟩

/-- Sessions of different subscribers have different numbers. -/
theorem ne_of_imsi_ne {j : UInt64} {t : Session} (hs : c.table.find? id = some s)
    (ht : c.table.find? j = some t) (hne : t.imsi ≠ s.imsi) : j ≠ id := by
  rintro rfl
  rw [hs] at ht
  exact hne (by rw [Option.some.inj ht])

/-- Without sessions there is nothing to show. -/
theorem UpToDate.get?_eq_none (hdate : c.UpToDate get?)
    (hnone : ∀ id, c.table.find? id = none) (key : String) : get? c.replica.store key = none := by
  rw [Option.eq_none_iff_forall_not_mem]
  intro text htext
  obtain ⟨record, -, -, -, id, s, hs, -⟩ := hdate key text htext
  rw [hnone id] at hs
  cases hs

/-- A write under the key of one subscriber, when the sessions of all others stay as they are. -/
theorem upToDate_of_write {store : σ} (imsi : String) (hdate : c.UpToDate get?)
    (hreplica : c'.replica = { c.replica with store })
    (hother : ∀ key, key ≠ c.replica.key imsi → get? store key = get? c.replica.store key)
    (hwritten : ∀ text, get? store (c.replica.key imsi) = some text →
      ∃ record : Record, text = record.text ∧ record.imsi = imsi ∧ c'.Shows record)
    (hlive : ∀ id s, c.table.find? id = some s → s.imsi ≠ imsi → c'.table.find? id = some s) :
    c'.UpToDate get? := by
  intro key text htext
  rw [hreplica] at htext ⊢
  by_cases hkey : key = c.replica.key imsi
  · rw [hkey] at htext
    obtain ⟨record, rfl, himsi, hshows⟩ := hwritten text htext
    exact ⟨record, record.parse?_text, rfl, by rw [hkey, himsi]; rfl, hshows⟩
  · rw [hother key hkey] at htext
    obtain ⟨record, hparse, htext, hplace, id, s, hs, himsi, hname, hstate⟩ := hdate key text htext
    -- The record is under another key, so its session is one of another subscriber.
    have hne : s.imsi ≠ imsi := by
      intro heq
      exact hkey (by rw [hplace, ← himsi, heq])
    exact ⟨record, hparse, htext, hplace, id, s, hlive id s hs hne, himsi, hname, hstate⟩

/-- A session is replaced by one that looks the same, and nothing is written. -/
theorem upToDate_of_put (hdate : c.UpToDate get?) (hs : c.table.find? id = some s)
    (himsi : s'.imsi = s.imsi) (hname : s'.name = s.name) (hstate : s'.state = s.state) :
    UpToDate get? { c with table := c.table.put id s' } := by
  intro key text htext
  obtain ⟨record, hparse, htext, hplace, j, t, ht, htimsi, htname, htstate⟩ := hdate key text htext
  refine ⟨record, hparse, htext, hplace, ?_⟩
  by_cases hj : j = id
  · obtain rfl : t = s := by
      rw [hj, hs] at ht
      exact (Option.some.inj ht).symm
    refine ⟨id, s', SessionTable.find?_put_self hs, himsi.trans htimsi, hname.trans htname, ?_⟩
    rw [hstate, htstate]
  · refine ⟨j, t, ?_, htimsi, htname, htstate⟩
    rw [SessionTable.find?_put, if_neg hj]
    exact ht

/-! ## One operation -/

variable [KeyValueStore σ] {op : Operation}

/-- A session shows itself, and it is the only one of its subscriber that may have changed. -/
theorem upToDate_of_update (hstore : Reliable works get?) (hserving : c.replica.Serving works)
    (hdate : c.UpToDate get?) (node : String) {table : SessionTable}
    (hs : table.find? id = some s)
    (hlive : ∀ j t, c.table.find? j = some t → t.imsi ≠ s.imsi → table.find? j = some t) :
    UpToDate get? { c with replica := (c.replica.update s node).value, table } := by
  obtain ⟨store, hvalue, -, hget⟩ :=
    Replica.value_update_of_serving hstore hserving s node
  refine upToDate_of_write s.imsi hdate hvalue ?_ ?_ hlive
  · intro key hkey
    rw [hget, if_neg hkey]
  · intro text htext
    rw [hget, if_pos rfl] at htext
    obtain rfl := Option.some.inj htext
    exact ⟨Record.ofSession s node c.replica.now, rfl, rfl, shows_ofSession hs node _⟩

/-- A session that goes takes the record of its subscriber with it, whoever wrote that. -/
theorem upToDate_of_erase (hstore : Reliable works get?) (hserving : c.replica.Serving works)
    (hdate : c.UpToDate get?) (hs : c.table.find? id = some s) (himsi : s'.imsi = s.imsi) :
    UpToDate get? { c with
      replica := (c.replica.remove s').value, table := c.table.erase id } := by
  obtain ⟨store, hvalue, -, hget⟩ := Replica.value_remove_of_serving hstore hserving s'
  refine upToDate_of_write s'.imsi hdate hvalue ?_ ?_ ?_
  · intro key hkey
    rw [hget, if_neg hkey]
  · intro text htext
    rw [hget, if_pos rfl] at htext
    cases htext
  · intro j t ht hne
    rw [SessionTable.find?_erase, if_neg (ne_of_imsi_ne hs ht (himsi ▸ hne))]
    exact ht

theorem upToDate_removeSession (hstore : Reliable works get?) (hserving : c.replica.Serving works)
    (hdate : c.UpToDate get?) (id : UInt64) :
    (c.removeSession id).value.2.UpToDate get? := by
  cases hfound : c.table.find? id with
  | none =>
    rw [value_removeSession_of_none hfound]
    exact hdate
  | some s =>
    rw [value_removeSession hfound]
    exact upToDate_of_erase hstore hserving hdate hfound rfl

/-- An operation keeps the records up to date, if a number that it gives is not taken. -/
theorem upToDate_of_effect (hstore : Reliable works get?) (hserving : c.replica.Serving works)
    (hdate : c.UpToDate get?) (hkeeps : op.Keeps shown)
    (hfree : op.isAddition = true → c.table.find? c.table.nextId = none)
    (h : c.Effect op c') : c'.UpToDate get? := by
  cases h with
  | @added imsi name s hs =>
    have hfind : ∀ j, (c.table.number.2.insert s.id s).find? j =
        (c.table.find? j).or (if j = s.id then some s else none) :=
      fun j => SessionTable.find?_insert c.table.number.2 s.id j s
    have hid : s.id = c.table.nextId := by
      rw [hs]
      rfl
    have hself : (c.table.number.2.insert s.id s).find? s.id = some s := by
      rw [hfind, hid, hfree rfl, if_pos rfl, Option.none_or]
    refine upToDate_of_update hstore hserving hdate c.config.name hself ?_
    intro j t ht _
    rw [hfind, ht, Option.some_or]
  | @removed id s hs => exact upToDate_of_erase hstore hserving hdate hs rfl
  | @finished id peers event s s' hs hs' hstate =>
    refine upToDate_of_erase hstore hserving hdate hs ?_
    rw [hs', Session.session_dispatch]
  | @stepped id peers event s s' hs hs' hstate =>
    have himsi : s'.imsi = s.imsi := by rw [hs', Session.session_dispatch]
    refine upToDate_of_update hstore hserving hdate c.config.name
      (SessionTable.find?_put_self hs) ?_
    intro j t ht hne
    rw [SessionTable.find?_put, if_neg (ne_of_imsi_ne hs ht (himsi ▸ hne))]
    exact ht
  | @informed id m bind s s' answer hs hs' =>
    -- A message of the policy server changes nothing that a record shows.
    have hsame : shown s' = shown s :=
      Session.keeps_handlePolicyWith hkeeps
        (fun s₁ hpolicy => by rw [shown, Session.frame_handlePolicy hpolicy]; rfl) hs'
    obtain ⟨himsi, hrest⟩ := Prod.mk.inj hsame
    obtain ⟨hname, hstate⟩ := Prod.mk.inj hrest
    exact upToDate_of_put hdate hs himsi hname hstate
  | cleared =>
    refine (inv_removeEach
      (P := fun c => c.replica.Serving works ∧ c.UpToDate get?) ?_ _ ⟨hserving, hdate⟩).2
    rintro c id ⟨hserving, hdate⟩
    refine ⟨?_, upToDate_removeSession hstore hserving hdate id⟩
    exact serving_removeSession hstore hserving id
  | unknown hop hnone => exact hdate

/-! ## Runs -/

/-- Over any run from a controller without sessions, with its replica connected to an empty store
that never fails, every text in the store is that of a record, under the key of its own subscriber,
and there is a live session of that subscriber, for the network of the record and in the state that
the record gives. After a removal of all sessions the store is empty. Engines that bind pushed rules
may do anything with a session but change what its record shows of this. There are no more additions
than numbers of sessions: the addition after the last number is a fault of the node, as it is for
the counters of rules, where `Advances` leaves it out. -/
theorem upToDate_of_performAll (hstore : Reliable works get?)
    (hready : c₀.replica.isReady = true) (hworks : works c₀.replica.store)
    (hempty : ∀ key, get? c₀.replica.store key = none) (hnew : c₀.table = {})
    {operations : List Operation}
    (hkeeps : ∀ op ∈ operations, op.Keeps shown)
    (hnumbers : operations.countP (·.isAddition) ≤ UInt64.size)
    (hok : (c₀.performAll operations).result = .ok c) :
    c.UpToDate get? ∧
      (operations.getLast? = some .removeAll → ∀ key, get? c.replica.store key = none) := by
  have hdate : c.UpToDate get? := by
    induction operations using List.reverseRecOn generalizing c with
    | nil =>
      obtain rfl := Except.ok.inj hok
      intro key text htext
      rw [hempty key] at htext
      cases htext
    | append_singleton operations op ih =>
      obtain ⟨c₁, hrun, hop⟩ := result_performAll_concat.mp hok
      rw [List.countP_append, List.countP_singleton] at hnumbers
      rw [List.forall_mem_append, List.forall_mem_singleton] at hkeeps
      refine upToDate_of_effect hstore (serving_of_performAll hstore ⟨hready, hworks⟩ hrun)
        (ih hkeeps.1 (by omega) hrun) hkeeps.2 ?_ (effect_of_perform hop)
      intro hadd
      rw [if_pos hadd] at hnumbers
      exact (numbered_of_performAll hnew hrun).find?_nextId hnumbers
  refine ⟨hdate, fun hlast => hdate.get?_eq_none ?_⟩
  obtain ⟨before, rfl⟩ := List.getLast?_eq_some_iff.mp hlast
  obtain ⟨c₁, -, hop⟩ := result_performAll_concat.mp hok
  obtain rfl := Except.ok.inj hop
  exact c₁.find?_removeAll

/-- The second session of a subscriber waits for a response while rules are pushed to it and taken
up. The first one is removed, and the second one gets its response. -/
def overtaken : List Operation :=
  [.add "001010000000001" (some "internet"), .add "001010000000001" (some "ims"),
    .dispatch 2 .working (.message 7 .createSessionRequest), pushing 2, .remove 1,
    .dispatch 2 .working (.message 7 (.createSessionResponse (some 16)))]

theorem keeps_overtaken : ∀ op ∈ overtaken, op.Keeps shown := by
  simp [overtaken, pushing, Operation.Keeps, shown, Session.state]

theorem upToDate_of_performAll_overtaken :
    (∃ c, (watched.performAll overtaken).result = .ok c ∧ c.UpToDate MemoryStore.get? ∧
      ((c.replica.record? MemoryStore.get? "001010000000001").bind Record.parse?).map
          (fun record => (record.network, record.state)) =
        some (some "ims", "s8_state_operational")) ∧
    ∃ c, (watched.performAll (overtaken ++ [.removeAll])).result = .ok c ∧
      ∀ key, MemoryStore.get? c.replica.store key = none := by
  constructor
  · have hok : (watched.performAll overtaken).result = .ok _ := rfl
    refine ⟨_, hok, ?_, by decide +kernel⟩
    exact (upToDate_of_performAll MemoryStore.reliable rfl rfl (fun _ => rfl) rfl keeps_overtaken
      (by decide) hok).1
  · have hok : (watched.performAll (overtaken ++ [.removeAll])).result = .ok _ := rfl
    have hkeeps : ∀ op ∈ overtaken ++ [.removeAll], op.Keeps shown := by
      rw [List.forall_mem_append, List.forall_mem_singleton]
      exact ⟨keeps_overtaken, trivial⟩
    refine ⟨_, hok, ?_⟩
    exact (upToDate_of_performAll MemoryStore.reliable rfl rfl (fun _ => rfl) rfl hkeeps
      (by decide) hok).2 rfl

end Controller

end SessionControl
