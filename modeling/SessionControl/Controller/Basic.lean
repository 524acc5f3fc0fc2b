import SessionControl.Controller.Table
import SessionControl.Replica.Basic
import SessionControl.Policy.Install
import SessionControl.Roaming.Dispatch

/-!
# The session controller

The controller owns the live sessions and the replica. It gives each message and each event to
the session that it is about, removes a session when its machine has finished, and keeps the
replica informed.

## Main definitions

- `Controller` — the settings, the response timer, the replica and the session table
- `Controller.addSession`, `Controller.removeSession`, `Controller.removeAll`
- `Controller.dispatch` — a roaming event for a session
- `Controller.handlePolicy` — a message of the policy server for a session
-/

namespace SessionControl

/-- The controller of a node, over a store for the replica. -/
structure Controller (σ : Type) where
  config : Config
  /-- The response timer, as it was configured when the controller was made. -/
  timer : Roaming.ResponseTimer
  replica : Replica σ
  table : SessionTable := {}
  deriving DecidableEq, Repr, Inhabited

namespace Controller

variable {σ : Type} [KeyValueStore σ]

/-- A controller without sessions, whose replica is not connected. -/
def new (config : Config) (store : σ) : Controller σ :=
  { config, timer := config.responseTimer, replica := { config := config.replica, store } }

/-- Adds a session, whose machine is put into use. Gives the session under its number as well: if
the number is taken, that is the one that was there before. -/
def addSession (c : Controller σ) (imsi : String) (name : Option String) :
    Traced (Session × Controller σ) := do
  let ((id, index), table) := c.table.number
  let s ← (Session.new id index imsi name).startMachine
  Traced.note (.sessionAdded imsi id name)
  let replica ← c.replica.update s c.config.name
  pure ((table.find? id).getD s, { c with replica, table := table.insert id s })

/-- Removes a session, if it is there. Gives the session as well. -/
def removeSession (c : Controller σ) (id : UInt64) : Traced (Option Session × Controller σ) :=
  match c.table.find? id with
  | none => pure (none, c)
  | some s => do
    Traced.note (.sessionRemoved s.imsi id)
    let replica ← c.replica.remove s
    pure (some s, { c with replica, table := c.table.erase id })

def removeEach : List UInt64 → Controller σ → Traced (Controller σ)
  | [], c => pure c
  | id :: ids, c => do
    let (_, c) ← c.removeSession id
    removeEach ids c

def removeAll (c : Controller σ) : Traced (Controller σ) :=
  removeEach (c.table.entries.map Prod.fst) c

/-- Puts a session back after an event: it is removed if its machine has finished, and shown in
the replica otherwise. -/
def settle (c : Controller σ) (id : UInt64) (s : Session) : Traced (Controller σ) := do
  let c := { c with table := c.table.put id s }
  if s.state = .final then
    let (_, c) ← c.removeSession id
    pure c
  else
    let replica ← c.replica.update s c.config.name
    pure { c with replica }

def dispatch (c : Controller σ) (id : UInt64) (peers : Peers) (event : Roaming.Event) :
    Traced (Except SessionError Roaming.Outcome × Controller σ) :=
  match c.table.find? id with
  | none => pure (.error (.notFound id), c)
  | some s => do
    let (outcome, s) ← s.dispatch c.timer peers event
    let c ← c.settle id s
    pure (.ok outcome, c)

/-- Gives a message of the policy server to a session. Gives the result code to answer, if the
message is answered. What the engine that binds pushed rules does with the session is `bind`; an
engine that leaves it alone is `pure`. The replica shows nothing of the policy. -/
def handlePolicy (c : Controller σ) (id : UInt64) (m : Policy.Message)
    (bind : Session → Attempt Session := pure) :
    Attempt (Except SessionError (Option UInt32) × Controller σ) :=
  match c.table.find? id with
  | none => pure (.error (.notFound id), c)
  | some s => do
    let (code, s) ← s.handlePolicyWith c.config m bind
    pure (.ok code, { c with table := c.table.put id s })

end Controller

end SessionControl
