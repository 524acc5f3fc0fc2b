import SessionControl.Json.Reader
import SessionControl.Session.Basic

/-!
# Session records

What the replica shows of a session, and its form as JSON text.

## Main definitions

- `Record` — the record of a session
- `Record.ofSession` — the record of a session at a time
- `Record.text`, `Record.parse?` — writing and reading a record
-/

namespace SessionControl

structure Record where
  imsi : String
  network : Option String
  ipv4 : Option String
  /-- The IPv6 prefix with its length. -/
  ipv6 : Option String
  state : String
  node : String
  /-- The time of the record, in seconds. -/
  timestamp : UInt64
  deriving DecidableEq, Repr, Inhabited

namespace Record

def ofSession (s : Session) (node : String) (timestamp : UInt64) : Record where
  imsi := s.imsi
  network := s.name
  ipv4 := s.ipv4.map (·.text)
  ipv6 := s.ipv6.map fun (length, addr) => s!"{addr.text}/{length.toNat}"
  state := s.state.name
  node := node
  timestamp := timestamp

/-- The names of the members of a record, in the order in which they are written. -/
def memberNames : List String :=
  ["imsi", "apn", "ue_ipv4", "ue_ipv6", "state", "smf_id", "timestamp"]

def toJson (r : Record) : Json :=
  .ofMembers (memberNames.zip
    [.ofText r.imsi, .ofOption .ofText r.network, .ofOption .ofText r.ipv4,
     .ofOption .ofText r.ipv6, .ofText r.state, .ofText r.node, .natural r.timestamp.toNat])

/-- The text of a record, on one line and without blanks. -/
def text (r : Record) : String :=
  r.toJson.render

/-- The members of a record in their order, if `v` has the form of one: an object without a
member given twice, or an array with all of them. Further members of an object do not matter,
but each name has to be a text. -/
def members? : Json → Option (List (Option Json))
  | .object members =>
    let names := members.filterMap Prod.fst
    let once name := decide (names.count name ≤ 1)
    if names.length = members.length && memberNames.all once then
      (Json.object members).fields? memberNames
    else none
  | .array elements =>
    if elements.length = memberNames.length then some (elements.map some) else none
  | _ => none

/-- A text that may be missing or `null`. -/
def optionalText? : Option Json → Option (Option String)
  | none => some none
  | some v => v.nullable? Json.text?

def ofJson? (v : Json) : Option Record := do
  let [imsi, network, ipv4, ipv6, state, node, timestamp] ← members? v | none
  let imsi ← (← imsi).text?
  let network ← optionalText? network
  let ipv4 ← optionalText? ipv4
  let ipv6 ← optionalText? ipv6
  let state ← (← state).text?
  let node ← (← node).text?
  let timestamp ← (← timestamp).natural? UInt64.size
  pure { imsi, network, ipv4, ipv6, state, node, timestamp := timestamp.toUInt64 }

def parse? (s : String) : Option Record := do
  ofJson? (← Json.parse? s)

end Record

end SessionControl
