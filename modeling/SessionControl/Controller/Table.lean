import SessionControl.Session.Basic

/-!
# The session table

The live sessions of the node by their numbers. Numbers count up from one and are not given
again; so do indexes, which skip zero when they wrap around.

## Main definitions

- `SessionTable` — the live sessions and the next numbers
- `SessionTable.find?`, `findByImsi?` — a live session
- `SessionTable.insert`, `put`, `erase` — add, replace and remove a session
-/

namespace SessionControl

structure SessionTable where
  /-- The sessions under their numbers, in the order they were added. -/
  entries : List (UInt64 × Session) := []
  nextId : UInt64 := 1
  nextIndex : UInt32 := 1
  deriving DecidableEq, Repr, Inhabited

namespace SessionTable

/-- The index after another one; zero is no index. -/
def indexAfter (index : UInt32) : UInt32 :=
  max (index + 1) 1

def size (t : SessionTable) : Nat :=
  t.entries.length

/-- The live sessions, in the order they were added. -/
def sessions (t : SessionTable) : List Session :=
  t.entries.map Prod.snd

def find? (t : SessionTable) (id : UInt64) : Option Session :=
  t.entries.lookup id

def findByImsi? (t : SessionTable) (imsi : String) : Option Session :=
  t.sessions.find? (·.imsi == imsi)

/-- Adds a session under a number, unless the number is taken. -/
def insert (t : SessionTable) (id : UInt64) (s : Session) : SessionTable :=
  if (t.find? id).isSome then t else { t with entries := t.entries ++ [(id, s)] }

def put (t : SessionTable) (id : UInt64) (s : Session) : SessionTable :=
  { t with entries := t.entries.map fun e => if e.1 = id then (id, s) else e }

def erase (t : SessionTable) (id : UInt64) : SessionTable :=
  { t with entries := t.entries.filter (·.1 != id) }

/-- Gives a number and an index to a session that is to be added. -/
def number (t : SessionTable) : (UInt64 × UInt32) × SessionTable :=
  ((t.nextId, t.nextIndex),
    { t with nextId := t.nextId + 1, nextIndex := indexAfter t.nextIndex })

end SessionTable

end SessionControl
