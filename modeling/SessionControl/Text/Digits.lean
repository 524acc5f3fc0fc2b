/-!
# Digits

Reading and writing unsigned numbers in a base up to sixteen. Letters stand for the digits above
nine; they are written in lower case and read in either case.

## Main definitions

- `Text.digitValue?` — the value of one digit
- `Text.numberOf?` — the number that a run of digits writes
- `Text.hex` — a number in base sixteen
-/

namespace SessionControl.Text

/-- The value of an ASCII digit or letter, if it is a digit of `base`. -/
def digitValue? (base : Nat) (c : Char) : Option Nat :=
  let n := c.toNat
  let value? :=
    if 48 ≤ n && n ≤ 57 then some (n - 48)
    else if 97 ≤ n && n ≤ 102 then some (n - 87)
    else if 65 ≤ n && n ≤ 70 then some (n - 55)
    else none
  value?.filter (· < base)

def isDecimal (c : Char) : Bool :=
  (digitValue? 10 c).isSome

/-- The number written by a list of digits, the most significant first, after `acc`. -/
def accumulate? (base : Nat) : Nat → List Char → Option Nat
  | acc, [] => some acc
  | acc, c :: cs =>
    match digitValue? base c with
    | some d => accumulate? base (acc * base + d) cs
    | none => none

/-- The number written by a non-empty run of digits of `base`, and by nothing else. -/
def numberOf? (base : Nat) (cs : List Char) : Option Nat :=
  if cs.isEmpty then none else accumulate? base 0 cs

/-- A number in base sixteen, in lower case and without leading zeros. -/
def hex (n : Nat) : String :=
  String.ofList (Nat.toDigits 16 n)

end SessionControl.Text
