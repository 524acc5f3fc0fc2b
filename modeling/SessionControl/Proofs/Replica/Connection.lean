import SessionControl.Proofs.Trace.Result
import SessionControl.Replica.Basic
import Mathlib.Data.List.Induction

/-!
# The connection of the replica

Whether a replica is connected can be told from the calls that its store got and from what the store
answered, over any store and after any operations: the last attempt to connect succeeded, and since
then every write did and nobody disconnected. Writes are made in this condition only.

## Main definitions

- `KeyValueStore.history` — calls to a store, with what it answers to each of them
- `Exchange.Open` — what a history has to be like for a connection to be there after it
- `Replica.Operation`, `Replica.performAll` — what a replica is asked to do

## Main statements

- `Exchange.foldl_next_eq_true_iff` — following a connection through a history, and telling it from
  the whole history
- `Replica.tracks_perform` — an operation follows what the store answers
- `Replica.connection_of_performAll` — when a replica is connected, and what it calls then
-/

namespace SessionControl

/-- A call to a store writes or deletes a record. -/
def Call.isWrite : Call → Bool
  | set _ _ | delete _ => true
  | connect _ _ | disconnect => false
  | userPlane _ _ _ | commit _ _ | startTimer _ _ | stopTimer _ | bind _ => false

/-- A call with what came of it. -/
structure Exchange where
  call : Call
  answer : Except StoreError Unit

/-! ## Histories of a store -/

namespace KeyValueStore

variable {σ : Type} [KeyValueStore σ]

/-- What a store answers to a call, and the store after it. A call that is not for a store leaves it
alone. -/
def ask (store : σ) : Call → Except StoreError Unit × σ
  | .connect host port => KeyValueStore.connect host port store
  | .set key value => KeyValueStore.set key value store
  | .delete key => KeyValueStore.delete key store
  | .disconnect => (.ok (), KeyValueStore.disconnect store)
  | .userPlane _ _ _ | .commit _ _ | .startTimer _ _ | .stopTimer _ | .bind _ => (.ok (), store)

/-- A store after calls. -/
def after (store : σ) (calls : List Call) : σ :=
  calls.foldl (fun store call => (ask store call).2) store

/-- Calls to a store in their order, with what it answers to each of them. -/
def history (store : σ) : List Call → List Exchange
  | [] => []
  | call :: calls => ⟨call, (ask store call).1⟩ :: history (ask store call).2 calls

theorem after_append (store : σ) (calls calls' : List Call) :
    after store (calls ++ calls') = after (after store calls) calls' :=
  List.foldl_append

theorem history_append (store : σ) (calls calls' : List Call) :
    history store (calls ++ calls') = history store calls ++ history (after store calls) calls' := by
  induction calls generalizing store with
  | nil => rfl
  | cons call calls ih => exact congrArg _ (ih _)

end KeyValueStore

/-! ## Following a connection -/

namespace Exchange

/-- Whether a connection is there after an exchange. -/
def next (connected : Bool) : Exchange → Bool
  | ⟨.connect _ _, answer⟩ => answer.isOk
  | ⟨.disconnect, _⟩ => false
  | ⟨.set _ _, .error e⟩ | ⟨.delete _, .error e⟩ => connected && e.isEncoding
  | _ => connected

/-- No write failed for the record that it was to write. -/
def Encodes (history : List Exchange) : Prop :=
  ∀ x ∈ history, x.call.isWrite = true → ∀ e, x.answer = .error e → e.isEncoding = false

instance (answer : Except StoreError Unit) :
    Decidable (∀ e, answer = .error e → e.isEncoding = false) :=
  match answer with
  | .ok () => .isTrue fun _ h => nomatch h
  | .error e => decidable_of_iff (e.isEncoding = false)
      ⟨fun h _ he => Except.error.inj he ▸ h, fun h => h e rfl⟩

instance (history : List Exchange) : Decidable (Encodes history) :=
  inferInstanceAs (Decidable (∀ x ∈ history, x.call.isWrite = true →
    ∀ e, x.answer = .error e → e.isEncoding = false))

/-- A write leaves the connection alone, unless it fails for more than its record. -/
theorem next_of_isWrite {call : Call} (hwrite : call.isWrite = true) (connected : Bool)
    (answer : Except StoreError Unit) : next connected ⟨call, answer⟩ =
      match answer with
      | .ok () => connected
      | .error e => connected && e.isEncoding := by
  cases call with
  | set | delete => cases answer <;> rfl
  | _ => cases hwrite

/-- An exchange other than an attempt to connect, a disconnection or a write that fails. -/
def Keeps (x : Exchange) : Prop :=
  (∀ host port, x.call ≠ .connect host port) ∧ x.call ≠ .disconnect ∧
    (x.call.isWrite = true → x.answer = .ok ())

/-- The most recent attempt to connect succeeded, and since then no write has failed and the store
has not been disconnected. -/
def Open (history : List Exchange) : Prop :=
  ∃ before host port after, history = before ++ ⟨.connect host port, .ok ()⟩ :: after ∧
    ∀ x ∈ after, x.Keeps

theorem Open.ne_nil {history : List Exchange} (hopen : Open history) : history ≠ [] := by
  obtain ⟨before, host, port, after, rfl, -⟩ := hopen
  simp

/-- Writes are made only while a connection is there. -/
def Guarded : Bool → List Exchange → Prop
  | _, [] => True
  | connected, x :: history =>
    (x.call.isWrite = true → connected = true) ∧ Guarded (next connected x) history

theorem open_concat {history : List Exchange} {x : Exchange} :
    Open (history ++ [x]) ↔
      (∃ host port, x = ⟨.connect host port, .ok ()⟩) ∨ (Open history ∧ x.Keeps) := by
  constructor
  · rintro ⟨before, host, port, after, hsplit, hafter⟩
    induction after using List.reverseRecOn with
    | nil =>
      obtain ⟨-, hx⟩ := List.append_inj' hsplit rfl
      exact .inl ⟨host, port, List.singleton_inj.mp hx⟩
    | append_singleton after y _ =>
      rw [← List.cons_append, ← List.append_assoc] at hsplit
      obtain ⟨hhistory, hx⟩ := List.append_inj' hsplit rfl
      obtain rfl := List.singleton_inj.mp hx
      refine .inr ⟨⟨before, host, port, after, hhistory, ?_⟩, hafter x (by simp)⟩
      exact fun z hz => hafter z (List.mem_append_left _ hz)
  · rintro (⟨host, port, rfl⟩ | ⟨⟨before, host, port, after, rfl, hafter⟩, hx⟩)
    · exact ⟨history, host, port, [], rfl, by simp⟩
    · refine ⟨before, host, port, after ++ [x], by simp, ?_⟩
      intro z hz
      obtain hz | hz := List.mem_append.mp hz
      · exact hafter z hz
      · rw [List.mem_singleton.mp hz]
        exact hx

/-- What one exchange makes of a connection. -/
theorem next_eq_true_iff {connected : Bool} {x : Exchange}
    (hencodes : x.call.isWrite = true → ∀ e, x.answer = .error e → e.isEncoding = false) :
    next connected x = true ↔
      (∃ host port, x = ⟨.connect host port, .ok ()⟩) ∨ (connected = true ∧ x.Keeps) := by
  obtain ⟨call, answer⟩ := x
  cases answer with
  | ok => cases call <;> simp [next, Keeps, Call.isWrite, Except.isOk, Except.toBool]
  | error e =>
    have he := fun hwrite => hencodes hwrite e rfl
    cases call <;> simp_all [next, Keeps, Call.isWrite, Except.isOk, Except.toBool]

/-- A connection that was not there at first is there in the end exactly if the history leaves it
open. -/
theorem foldl_next_eq_true_iff {history : List Exchange} (hencodes : Encodes history) :
    history.foldl next false = true ↔ Open history := by
  induction history using List.reverseRecOn with
  | nil => simp [Open]
  | append_singleton history x ih =>
    have hhistory : Encodes history := fun y hy => hencodes y (List.mem_append_left _ hy)
    rw [List.foldl_append, open_concat, ← ih hhistory]
    exact next_eq_true_iff (hencodes x (by simp))

theorem guarded_append {connected : Bool} {history history' : List Exchange} :
    Guarded connected (history ++ history') ↔
      Guarded connected history ∧ Guarded (history.foldl next connected) history' := by
  induction history generalizing connected with
  | nil => simp [Guarded]
  | cons x history ih => simp only [List.cons_append, Guarded, ih, List.foldl_cons, and_assoc]

/-- Between a write that failed and any later one, an attempt to connect succeeded. -/
theorem exists_connect_of_guarded {before middle after : List Exchange} {x y : Exchange}
    {connected : Bool} (hguarded : Guarded connected (before ++ x :: (middle ++ y :: after)))
    (hencodes : Encodes (before ++ x :: (middle ++ y :: after))) (hx : x.call.isWrite = true)
    {e : StoreError} (he : x.answer = .error e) (hy : y.call.isWrite = true) :
    ∃ host port, ⟨.connect host port, .ok ()⟩ ∈ middle := by
  have hfailed : ∀ connected, next connected x = false := by
    intro connected
    rw [Bool.eq_false_iff, ne_eq, next_eq_true_iff (hencodes x (by simp))]
    rintro (⟨host, port, rfl⟩ | ⟨-, -, -, hok⟩)
    · cases hx
    · rw [hok hx] at he
      cases he
  obtain ⟨-, -, hrest⟩ := guarded_append.mp hguarded
  rw [hfailed, guarded_append] at hrest
  have hopen : Open middle :=
    (foldl_next_eq_true_iff fun z hz => hencodes z (by simp [hz])).mp (hrest.2.1 hy)
  obtain ⟨-, host, port, -, rfl, -⟩ := hopen
  exact ⟨host, port, by simp⟩

end Exchange

/-! ## Operations of a replica -/

namespace Replica

open KeyValueStore Exchange

variable {σ : Type}

/-- What a replica is asked to do. An update comes at a time. -/
inductive Operation where
  | connect
  | reconnect
  | update (s : Session) (node : String) (time : UInt64)
  | remove (s : Session)
  | disconnect

variable [KeyValueStore σ]

def perform (r : Replica σ) : Operation → Traced (Replica σ)
  | .connect => r.connect
  | .reconnect => r.reconnect
  | .update s node time => { r with now := time }.update s node
  | .remove s => r.remove s
  | .disconnect => r.disconnect

def performAll (r : Replica σ) (operations : List Operation) : Traced (Replica σ) :=
  operations.foldlM perform r

/-- A computation on a replica follows its store: the store is what the calls make of it, whether
the replica is connected is told by the answers, and writes are made while it is connected. -/
structure Tracks (r : Replica σ) (x : Traced (Replica σ)) : Prop where
  config : x.value.config = r.config
  store : x.value.store = after r.store x.calls
  connected : x.value.connected = (history r.store x.calls).foldl next r.connected
  guarded : Guarded r.connected (history r.store x.calls)

variable {r : Replica σ}

theorem tracks_pure (r : Replica σ) : r.Tracks (pure r) :=
  ⟨rfl, rfl, rfl, trivial⟩

theorem Tracks.bind {x : Traced (Replica σ)} {f : Replica σ → Traced (Replica σ)}
    (hx : r.Tracks x) (hf : x.value.Tracks (f x.value)) : r.Tracks (x >>= f) where
  config := hf.config.trans hx.config
  store := by
    rw [Traced.value_bind, hf.store, hx.store, Traced.calls_bind, after_append]
  connected := by
    rw [Traced.value_bind, hf.connected, hx.store, hx.connected, Traced.calls_bind,
      history_append, List.foldl_append]
  guarded := by
    rw [Traced.calls_bind, history_append, guarded_append, ← hx.connected, ← hx.store]
    exact ⟨hx.guarded, hf.guarded⟩

/-- Nothing is called, and nothing but the time of the replica changes. -/
theorem tracks_of_calls_eq_nil {x : Traced (Replica σ)} (hcalls : x.calls = [])
    (hconfig : x.value.config = r.config) (hstore : x.value.store = r.store)
    (hconnected : x.value.connected = r.connected) : r.Tracks x where
  config := hconfig
  store := by rw [hcalls, hstore]; rfl
  connected := by rw [hcalls, hconnected]; rfl
  guarded := by rw [hcalls]; trivial

theorem tracks_connect (r : Replica σ) : r.Tracks r.connect := by
  unfold connect
  split
  · cases hanswer : KeyValueStore.connect r.config.host r.config.port r.store with
    | mk answer store =>
      cases answer <;> constructor <;>
        simp [hanswer, after, history, ask, next, Guarded, Call.isWrite, Except.isOk, Except.toBool]
  · exact tracks_of_calls_eq_nil rfl rfl rfl rfl

theorem tracks_disconnect (r : Replica σ) : r.Tracks r.disconnect := by
  unfold disconnect
  split
  · exact ⟨rfl, rfl, rfl, by simp [history, Guarded, Call.isWrite]⟩
  · exact tracks_of_calls_eq_nil rfl rfl rfl rfl

theorem tracks_reconnect (r : Replica σ) : r.Tracks r.reconnect := by
  unfold reconnect
  split
  · next hlost =>
    have hconnected : r.connected = false := by simp_all
    -- Disconnecting first and connecting then are two operations in a row.
    let r' : Replica σ := { r with store := KeyValueStore.disconnect r.store }
    change r.Tracks ((Traced.call .disconnect >>= fun _ => pure r') >>= Replica.connect)
    refine Tracks.bind ⟨rfl, rfl, hconnected, ?_⟩ (tracks_connect r')
    simp [history, Guarded, Call.isWrite]
  · exact tracks_of_calls_eq_nil rfl rfl rfl rfl

/-- A write that is made if the replica is ready. -/
theorem tracks_whenReady (call : Call) (hwrite : call.isWrite = true) (key : String) :
    r.Tracks (r.whenReady (do
      Traced.call call
      { r with store := (ask r.store call).2 }.afterWrite key (ask r.store call).1)) := by
  unfold whenReady
  split
  · next hready =>
    have hconnected : r.connected = true := (Bool.and_eq_true_iff.mp hready).2
    cases hanswer : (ask r.store call).1 <;> constructor <;>
      simp [afterWrite, after, history, hanswer, Guarded, hconnected, next_of_isWrite hwrite]
  · split
    · exact tracks_of_calls_eq_nil rfl rfl rfl rfl
    · exact tracks_pure r

theorem tracks_update (r : Replica σ) (s : Session) (node : String) :
    r.Tracks (r.update s node) :=
  tracks_whenReady (.set (r.key s.imsi) (Record.ofSession s node r.now).text) rfl (r.key s.imsi)

theorem tracks_remove (r : Replica σ) (s : Session) : r.Tracks (r.remove s) :=
  tracks_whenReady (.delete (r.key s.imsi)) rfl (r.key s.imsi)

/-- Every operation follows what the store answers. -/
theorem tracks_perform (r : Replica σ) (op : Operation) : r.Tracks (r.perform op) := by
  cases op with
  | connect => exact tracks_connect r
  | reconnect => exact tracks_reconnect r
  | update s node time =>
    obtain ⟨hconfig, hstore, hconnected, hguarded⟩ := tracks_update { r with now := time } s node
    exact ⟨hconfig, hstore, hconnected, hguarded⟩
  | remove s => exact tracks_remove r s
  | disconnect => exact tracks_disconnect r

theorem tracks_performAll (r : Replica σ) (operations : List Operation) :
    r.Tracks (r.performAll operations) := by
  induction operations generalizing r with
  | nil => exact tracks_pure r
  | cons op operations ih => exact (tracks_perform r op).bind (ih _)

/-! ## What is called -/

omit [KeyValueStore σ] in
theorem calls_whenReady (call : Call) (key : String) (store : σ) (answer : Except StoreError Unit) :
    (r.whenReady (do Traced.call call; { r with store }.afterWrite key answer)).calls =
      if r.isReady then [call] else [] := by
  unfold whenReady
  split
  · cases answer <;> rfl
  · split <;> rfl

theorem calls_update (r : Replica σ) (s : Session) (node : String) : (r.update s node).calls =
    if r.isReady then [.set (r.key s.imsi) (Record.ofSession s node r.now).text] else [] :=
  calls_whenReady ..

theorem calls_remove (r : Replica σ) (s : Session) : (r.remove s).calls =
    if r.isReady then [.delete (r.key s.imsi)] else [] :=
  calls_whenReady ..

theorem calls_connect (r : Replica σ) : r.connect.calls =
    if r.config.enabled then [.connect r.config.host r.config.port] else [] := by
  unfold connect
  split
  · cases hanswer : KeyValueStore.connect r.config.host r.config.port r.store with
    | mk answer store => cases answer <;> simp
  · rfl

theorem calls_disconnect (r : Replica σ) : r.disconnect.calls =
    if r.connected then [.disconnect] else [] := by
  unfold disconnect
  split <;> rfl

theorem calls_reconnect (r : Replica σ) : r.reconnect.calls =
    if r.config.enabled && !r.connected then [.disconnect, .connect r.config.host r.config.port]
    else [] := by
  unfold reconnect
  split
  · next hlost =>
    rw [Traced.calls_bind, calls_connect, if_pos (Bool.and_eq_true_iff.mp hlost).1]
    rfl
  · rfl

/-- A replica that is not in use and not connected calls nothing. -/
theorem calls_perform_of_disabled (hdisabled : r.config.enabled = false)
    (hconnected : r.connected = false) (op : Operation) : (r.perform op).calls = [] := by
  have hready : r.isReady = false := by rw [isReady, hdisabled, Bool.false_and]
  cases op with
  | connect => simp [perform, calls_connect, hdisabled]
  | reconnect => simp [perform, calls_reconnect, hdisabled]
  | update s node time =>
    have hready' : { r with now := time }.isReady = false := hready
    simp [perform, calls_update, hready']
  | remove s => simp [perform, calls_remove, hready]
  | disconnect => simp [perform, calls_disconnect, hconnected]

theorem calls_performAll_of_disabled (hdisabled : r.config.enabled = false)
    (hconnected : r.connected = false) (operations : List Operation) :
    (r.performAll operations).calls = [] := by
  induction operations generalizing r with
  | nil => rfl
  | cons op operations ih =>
    have hcalls := calls_perform_of_disabled hdisabled hconnected op
    have hstep := tracks_perform r op
    have hrest := ih (hstep.config ▸ hdisabled) (by rw [hstep.connected, hcalls]; exact hconnected)
    change (r.perform op).calls ++ ((r.perform op).value.performAll operations).calls = []
    rw [hcalls, hrest, List.append_nil]

/-! ## When a replica is connected -/

/-- Take a replica that has not been connected yet, over any store, and any operations on it. If no
write fails for its record, then afterwards the replica is connected exactly if it is in use, the
most recent attempt to connect succeeded, and since then no write has failed and the store has not
been disconnected. Every write of the run was made in this condition; and between a write that
failed and any later one, an attempt to connect succeeded. An update or a removal that comes next
makes its one write if the replica is connected, and no call else. To reconnect calls nothing if
the replica is connected; if it is not and is in use, the store is disconnected and then connected
once. A replica that is not in use calls nothing at all. -/
theorem connection_of_performAll (config : ReplicaConfig) (store : σ)
    (operations : List Operation) :
    let run := performAll { config, store } operations
    let r := run.value
    let past := history store run.calls
    Encodes past →
      r.store = after store run.calls ∧
      (r.connected = true ↔ config.enabled = true ∧ Open past) ∧
      (∀ before x after, past = before ++ x :: after → x.call.isWrite = true →
        config.enabled = true ∧ Open before) ∧
      (∀ before x middle y after, past = before ++ x :: (middle ++ y :: after) →
        x.call.isWrite = true → (∃ e, x.answer = .error e) → y.call.isWrite = true →
          ∃ host port, ⟨.connect host port, .ok ()⟩ ∈ middle) ∧
      (∀ s node time, (r.perform (.update s node time)).calls =
        if r.connected then [.set (r.key s.imsi) (Record.ofSession s node time).text] else []) ∧
      (∀ s, (r.perform (.remove s)).calls =
        if r.connected then [.delete (r.key s.imsi)] else []) ∧
      (r.perform .reconnect).calls =
        (if config.enabled && !r.connected then [.disconnect, .connect config.host config.port]
        else []) ∧
      (config.enabled = false → run.calls = []) := by
  intro run r past hencodes
  have htracks : Tracks { config, store } run := tracks_performAll _ operations
  have hconfig : r.config = config := htracks.config
  have hconnected : r.connected = past.foldl next false := htracks.connected
  have hguarded : Guarded false past := htracks.guarded
  have hdisabled : config.enabled = false → run.calls = [] := fun hdisabled =>
    calls_performAll_of_disabled hdisabled rfl operations
  -- Where something has been called, the replica is in use.
  have henabled : past ≠ [] → config.enabled = true := by
    intro hpast
    by_contra hnot
    have hcalls : run.calls = [] := hdisabled (Bool.eq_false_iff.mpr hnot)
    exact hpast (congrArg (history store) hcalls)
  have hopen : r.connected = true ↔ config.enabled = true ∧ Open past := by
    rw [hconnected, foldl_next_eq_true_iff hencodes]
    refine ⟨fun hopen => ⟨henabled hopen.ne_nil, hopen⟩, And.right⟩
  have hready : r.isReady = r.connected := by
    rw [isReady, hconfig]
    cases hr : r.connected with
    | true => rw [(hopen.mp hr).1, Bool.and_true]
    | false => rw [Bool.and_false]
  refine ⟨htracks.store, hopen, ?_, ?_, ?_, ?_, ?_, hdisabled⟩
  · intro before x after hpast hwrite
    refine ⟨henabled (by simp [hpast]), ?_⟩
    rw [hpast] at hencodes hguarded
    exact (foldl_next_eq_true_iff fun y hy => hencodes y (List.mem_append_left _ hy)).mp
      ((guarded_append.mp hguarded).2.1 hwrite)
  · rintro before x middle y after hpast hx ⟨e, he⟩ hy
    rw [hpast] at hencodes hguarded
    exact exists_connect_of_guarded hguarded hencodes hx he hy
  · intro s node time
    have hcalls := calls_update { r with now := time } s node
    rwa [show isReady { r with now := time } = r.connected from hready] at hcalls
  · intro s
    rw [perform, calls_remove, hready]
  · rw [perform, calls_reconnect, hconfig]

/-- The store lets the replica connect and fails every write. The first update costs the
connection, so that nothing is deleted afterwards; the replica is connected again, until it is
asked to disconnect. -/
theorem connection_of_performAll_failing :
    let s : Session := .new 1 5 "001010000000001" (some "internet")
    let operations : List Operation := [.connect, .update s "smf" 7, .remove s, .reconnect,
      .reconnect, .disconnect, .update s "smf" 8, .connect]
    let store : MemoryStore := { failure := some (.backend "disk full") }
    let config : ReplicaConfig := { enabled := true }
    let run := performAll { config, store } operations
    Encodes (history store run.calls) ∧ run.value.connected = true ∧ Open (history store run.calls) ∧
      run.calls.countP (·.isWrite) = 1 ∧ run.calls.length = 6 ∧
      (run.value.perform .reconnect).calls = [] := by
  intro s operations store config run
  have hencodes : Encodes (history store run.calls) := by decide +kernel
  have hconnected : run.value.connected = true := by decide +kernel
  obtain ⟨-, hopen, -, -, -, -, hreconnect, -⟩ :=
    connection_of_performAll config store operations hencodes
  rw [show run.value.connected = true from hconnected] at hreconnect
  exact ⟨hencodes, hconnected, (hopen.mp hconnected).2, by decide +kernel, by decide +kernel,
    hreconnect⟩

end Replica

end SessionControl
