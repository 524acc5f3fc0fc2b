import SessionControl.Config.Basic
import SessionControl.Replica.Record
import SessionControl.Trace.Traced

/-!
# The session replica

A copy of what is known about each session in a key-value store, for those who watch the node.
The replica is kept as well as it can be: every failure is reported and otherwise swallowed, so
the sessions never notice. After a failing write the replica counts as disconnected until it
connects again.

## Main definitions

- `Replica` — the settings, the store and whether it is connected
- `Replica.connect`, `Replica.reconnect`, `Replica.disconnect`
- `Replica.update`, `Replica.remove` — write and delete the record of a session
-/

namespace SessionControl

structure Replica (σ : Type) where
  config : ReplicaConfig
  store : σ
  connected : Bool := false
  /-- The time that records are given, in seconds. -/
  now : UInt64 := 0
  deriving DecidableEq, Repr, Inhabited

namespace Replica

variable {σ : Type} [KeyValueStore σ]

def key (r : Replica σ) (imsi : String) : String :=
  s!"{r.config.keyPrefix}_{imsi}"

/-- The replica is used and connected. -/
def isReady (r : Replica σ) : Bool :=
  r.config.enabled && r.connected

/-- Connects to the store. A failure leaves the replica disconnected. -/
def connect (r : Replica σ) : Traced (Replica σ) := do
  if r.config.enabled then
    Traced.call (.connect r.config.host r.config.port)
    let (result, store) := KeyValueStore.connect r.config.host r.config.port r.store
    match result with
    | .ok () =>
      Traced.note (.replicaConnected r.config.host r.config.port)
      pure { r with store, connected := true }
    | .error e =>
      Traced.note (.replicaRefused r.config.host r.config.port e)
      pure { r with store, connected := false }
  else
    Traced.note .replicaDisabled
    pure r

/-- Connects again if the replica is used and not connected. -/
def reconnect (r : Replica σ) : Traced (Replica σ) := do
  if r.config.enabled && !r.connected then
    Traced.call .disconnect
    { r with store := KeyValueStore.disconnect r.store }.connect
  else pure r

def disconnect (r : Replica σ) : Traced (Replica σ) := do
  if r.connected then
    Traced.call .disconnect
    Traced.note .replicaDisconnected
    pure { r with store := KeyValueStore.disconnect r.store, connected := false }
  else pure r

/-- Takes note of how a write of the record under `key` went. A failure disconnects the replica
unless it says something about the record only. -/
def afterWrite (r : Replica σ) (key : String) : Except StoreError Unit → Traced (Replica σ)
  | .ok () => pure r
  | .error e => do
    Traced.note (.replicaFailed key e)
    pure { r with connected := r.connected && e.isEncoding }

/-- Does `write` if the replica is ready, and says so if it is not connected. -/
def whenReady (r : Replica σ) (write : Traced (Replica σ)) : Traced (Replica σ) :=
  if r.isReady then write
  else do
    if r.config.enabled then Traced.note .replicaSkipped
    pure r

def update (r : Replica σ) (s : Session) (node : String) : Traced (Replica σ) :=
  r.whenReady do
    let key := r.key s.imsi
    let text := (Record.ofSession s node r.now).text
    Traced.call (.set key text)
    let (result, store) := KeyValueStore.set key text r.store
    { r with store }.afterWrite key result

def remove (r : Replica σ) (s : Session) : Traced (Replica σ) :=
  r.whenReady do
    let key := r.key s.imsi
    Traced.call (.delete key)
    let (result, store) := KeyValueStore.delete key r.store
    { r with store }.afterWrite key result

end Replica

end SessionControl
