import SessionControl.Text.Digits

/-!
# IPv4 addresses

## Main definitions

- `Address.V4` — four octets, the most significant first
- `Address.V4.text` — dotted decimal
- `Address.V4.read` — an address at the front of a text
- `Address.V4.parse?` — a whole text that is one address
-/

namespace SessionControl.Address

structure V4 where
  a : UInt8
  b : UInt8
  c : UInt8
  d : UInt8
  deriving DecidableEq, Repr, Inhabited

namespace V4

def loopback : V4 := ⟨127, 0, 0, 1⟩

/-- The four octets in decimal, with dots between them. -/
def text (x : V4) : String :=
  ".".intercalate [toString x.a.toNat, toString x.b.toNat, toString x.c.toNat, toString x.d.toNat]

/-- An octet at the front of a text: one to three decimal digits that write a number below 256,
without a leading zero unless the octet is zero. All digits in a row belong to it. -/
def readOctet (cs : List Char) : Option (UInt8 × List Char) :=
  let digits := cs.takeWhile Text.isDecimal
  if digits.length > 3 || (digits.length > 1 && digits.head? == some '0') then none
  else
    match Text.numberOf? 10 digits with
    | some n => if n < 256 then some (n.toUInt8, cs.drop digits.length) else none
    | none => none

/-- The character `c` and then an octet. -/
def readOctetAfter (c : Char) : List Char → Option (UInt8 × List Char)
  | [] => none
  | x :: xs => if x = c then readOctet xs else none

def read (cs : List Char) : Option (V4 × List Char) := do
  let (a, cs) ← readOctet cs
  let (b, cs) ← readOctetAfter '.' cs
  let (c, cs) ← readOctetAfter '.' cs
  let (d, cs) ← readOctetAfter '.' cs
  pure (⟨a, b, c, d⟩, cs)

/-- The address that a text writes in dotted decimal, with nothing before or after it. -/
def parse? (s : String) : Option V4 :=
  match read s.toList with
  | some (x, []) => some x
  | _ => none

end V4

end SessionControl.Address
