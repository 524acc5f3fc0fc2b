/-!
# Key-value stores

The external store that session records are written to. A store may refuse to connect, and any
write may fail.

## Main definitions

- `StoreError`, `StoreError.message` — why a store did not do what it was asked
- `KeyValueStore` — what the replica asks of a store
- `OfflineStore` — a store whose server has never been reached
- `MemoryStore` — a store in memory that can be told to fail
-/

namespace SessionControl

/-- Why a store did not do what it was asked. -/
inductive StoreError where
  | notConnected
  /-- The store failed for a reason of its own. -/
  | backend (reason : String)
  /-- The record could not be encoded. -/
  | encoding (reason : String)
  deriving DecidableEq, Repr, Inhabited

namespace StoreError

def message : StoreError → String
  | notConnected => "Mirror backend not connected"
  | backend reason => s!"Mirror backend error: {reason}"
  | encoding reason => s!"Cannot encode session record: {reason}"

/-- The error says something about the record and nothing about the connection. -/
def isEncoding : StoreError → Bool
  | encoding _ => true
  | notConnected | backend _ => false

end StoreError

/-- A store of texts under keys. Every operation gives the store afterwards. -/
class KeyValueStore (σ : Type) where
  connect : String → UInt16 → σ → Except StoreError Unit × σ
  set : String → String → σ → Except StoreError Unit × σ
  delete : String → σ → Except StoreError Unit × σ
  disconnect : σ → σ

/-- A store whose server has never been reached. It refuses everything, and disconnecting it
changes nothing. -/
structure OfflineStore where
  deriving DecidableEq, Repr, Inhabited

instance : KeyValueStore OfflineStore where
  connect _ _ s := (.error .notConnected, s)
  set _ _ s := (.error .notConnected, s)
  delete _ s := (.error .notConnected, s)
  disconnect s := s

/-- A store in memory. It does not look whether it is connected. -/
structure MemoryStore where
  /-- The entries, one for each key. -/
  entries : List (String × String) := []
  /-- The error of every connection attempt, if they fail. -/
  refusal : Option StoreError := none
  /-- The error of every write, if they fail. -/
  failure : Option StoreError := none
  deriving DecidableEq, Repr, Inhabited

namespace MemoryStore

def get? (s : MemoryStore) (key : String) : Option String :=
  s.entries.lookup key

def keys (s : MemoryStore) : List String :=
  s.entries.map Prod.fst

def without (key : String) (entries : List (String × String)) : List (String × String) :=
  entries.filter (·.1 != key)

def writing (s : MemoryStore) (write : List (String × String) → List (String × String)) :
    Except StoreError Unit × MemoryStore :=
  match s.failure with
  | some e => (.error e, s)
  | none => (.ok (), { s with entries := write s.entries })

end MemoryStore

instance : KeyValueStore MemoryStore where
  connect _ _ s :=
    match s.refusal with
    | some e => (.error e, s)
    | none => (.ok (), s)
  set key value s := s.writing fun es => MemoryStore.without key es ++ [(key, value)]
  delete key s := s.writing (MemoryStore.without key)
  disconnect s := s

end SessionControl
