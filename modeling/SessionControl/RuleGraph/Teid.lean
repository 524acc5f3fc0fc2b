/-!
# Tunnel endpoint numbers

A user-plane node may restrict the tunnel endpoint numbers it serves to those whose top bits
have a given value. A number that was set aside without that restriction is then mapped into
the node's range.

## Main definitions

- `Teid.base` — where the numbers of a session begin
- `Teid.inRange` — an index mapped into a node's range
-/

namespace SessionControl.Teid

/-- The number before the first one of a session: each session index has 256 of its own. The
top eight bits of the index do not matter. -/
def base (index : UInt32) : UInt32 :=
  index <<< 8

/-- How many low bits of a number are left to the index when `rangeBits` bits name the range.
At most seven bits do. -/
def indexBits (rangeBits : UInt8) : UInt32 :=
  32 - (min rangeBits 7).toUInt32

/-- The index with its top `rangeBits` bits replaced by those of `range`. Without range bits the
index is used as it is. -/
def inRange (index : UInt32) (rangeBits range : UInt8) : UInt32 :=
  if rangeBits = 0 then index
  else
    let bits := indexBits rangeBits
    range.toUInt32 <<< bits ||| (index &&& (1 <<< bits - 1))

end SessionControl.Teid
