import SessionControl.Address.V4

/-!
# IPv6 addresses

An address is eight groups of sixteen bits. In text, one run of zero groups may be left out and
shown as `::`, and the last two groups may be written as an IPv4 address.

## Main definitions

- `Address.V6` — eight groups, the most significant first
- `Address.V6.text` — the shortest form: lower case, no leading zeros, the first of the longest
  runs of two or more zero groups left out, and a dotted end for IPv4-mapped addresses only
- `Address.V6.parse?` — a whole text that is one address
-/

namespace SessionControl.Address

structure V6 where
  groups : Vector UInt16 8
  deriving DecidableEq, Repr, Inhabited

inductive Any where
  | v4 (address : V4)
  | v6 (address : V6)
  deriving DecidableEq, Repr

namespace V6

/-! ## Writing -/

/-- A run of zero groups: where it begins and how long it is. -/
structure ZeroRun where
  start : Nat
  length : Nat
  deriving DecidableEq, Repr

/-- The longest run of zero groups, the first one on ties. `here` is the run that ends just
before the group at `index`, and `best` the longest run seen so far. -/
def longestZeroRun (index : Nat) (here best : ZeroRun) : List UInt16 → ZeroRun
  | [] => best
  | g :: gs =>
    if g = 0 then
      let here := if here.length = 0 then ⟨index, 1⟩ else ⟨here.start, here.length + 1⟩
      longestZeroRun (index + 1) here (if here.length > best.length then here else best) gs
    else longestZeroRun (index + 1) ⟨0, 0⟩ best gs

/-- Groups in hexadecimal with colons between them. -/
def joined (groups : List UInt16) : String :=
  ":".intercalate (groups.map fun g => Text.hex g.toNat)

/-- The IPv4 address inside an IPv4-mapped address. -/
def mapped? (x : V6) : Option V4 :=
  if x.groups.toList.take 6 = [0, 0, 0, 0, 0, 0xffff] then
    let high := x.groups[6]
    let low := x.groups[7]
    some ⟨(high >>> 8).toUInt8, high.toUInt8, (low >>> 8).toUInt8, low.toUInt8⟩
  else none

/-- The shortest text of an address. -/
def text (x : V6) : String :=
  match x.mapped? with
  | some v4 => "::ffff:" ++ v4.text
  | none =>
    let groups := x.groups.toList
    let run := longestZeroRun 0 ⟨0, 0⟩ ⟨0, 0⟩ groups
    if run.length > 1 then
      joined (groups.take run.start) ++ "::" ++ joined (groups.drop (run.start + run.length))
    else joined groups

/-! ## Reading -/

/-- A group at the front of a text: one to four hexadecimal digits. All digits in a row belong
to it. -/
def readGroup (cs : List Char) : Option (UInt16 × List Char) :=
  let digits := cs.takeWhile fun c => (Text.digitValue? 16 c).isSome
  if digits.length > 4 then none
  else
    match Text.numberOf? 16 digits with
    | some n => some (n.toUInt16, cs.drop digits.length)
    | none => none

/-- What `inner` reads, after a colon unless it stands first. -/
def afterColon {α : Type} (first : Bool) (inner : List Char → Option (α × List Char))
    (cs : List Char) : Option (α × List Char) :=
  if first then inner cs
  else
    match cs with
    | ':' :: rest => inner rest
    | _ => none

structure GroupRun where
  groups : List UInt16
  /-- The last two groups were written as an IPv4 address. -/
  dotted : Bool
  rest : List Char

/-- As many groups in a row as there are and as there is room for. An IPv4 address counts for
two groups and ends the row. -/
def readGroups : Nat → Bool → List Char → GroupRun
  | 0, _, cs => ⟨[], false, cs⟩
  | room + 1, first, cs =>
    match if room = 0 then none else afterColon first V4.read cs with
    | some (v4, rest) =>
      ⟨[v4.a.toUInt16 <<< 8 ||| v4.b.toUInt16, v4.c.toUInt16 <<< 8 ||| v4.d.toUInt16], true, rest⟩
    | none =>
      match afterColon first readGroup cs with
      | none => ⟨[], false, cs⟩
      | some (g, rest) =>
        let run := readGroups room false rest
        ⟨g :: run.groups, run.dotted, run.rest⟩

/-- Eight groups out of those before and those after the gap. -/
def ofGap? (head tail : List UInt16) : Option V6 :=
  let groups := head ++ List.replicate (8 - head.length - tail.length) 0 ++ tail
  if h : groups.toArray.size = 8 then some ⟨⟨groups.toArray, h⟩⟩ else none

/-- An address at the front of a text. A `::` stands for one group at least. -/
def read (cs : List Char) : Option (V6 × List Char) :=
  let head := readGroups 8 true cs
  if head.groups.length = 8 then (ofGap? head.groups []).map (·, head.rest)
  else if head.dotted then none
  else
    match head.rest with
    | ':' :: ':' :: rest =>
      let tail := readGroups (7 - head.groups.length) true rest
      (ofGap? head.groups tail.groups).map (·, tail.rest)
    | _ => none

/-- The address that a text writes, with nothing before or after it. -/
def parse? (s : String) : Option V6 :=
  match read s.toList with
  | some (x, []) => some x
  | _ => none

end V6

namespace Any

def text : Any → String
  | .v4 x => x.text
  | .v6 x => x.text

def parse? (s : String) : Option Any :=
  match V4.parse? s with
  | some x => some (.v4 x)
  | none => (V6.parse? s).map .v6

end Any

end SessionControl.Address
