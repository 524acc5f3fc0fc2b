import SessionControl.Policy.Rule

/-!
# Messages of the policy server

The decoded content of the messages in which the policy server answers or pushes a decision.

## Main definitions

- `Policy.Kind` — what a message asks for
- `Policy.Message` — a message with its result and its policy data
- `ResultCode` — the result codes that are answered
-/

namespace SessionControl.Policy

inductive Kind where
  /-- The answer to the request that begins a session: install the policy. -/
  | initialAnswer
  /-- The answer to the request that ends a session. -/
  | terminationAnswer
  /-- The answer to a request during a session. -/
  | updateAnswer
  /-- A change that the policy server pushes. -/
  | reauthorize
  deriving DecidableEq, Repr, Inhabited

namespace Kind

/-- The Diameter command code. -/
def command : Kind → UInt32
  | reauthorize => 258
  | initialAnswer | terminationAnswer | updateAnswer => 272

/-- The number of the credit-control request type that a message belongs to. -/
def requestType? : Kind → Option UInt32
  | initialAnswer => some 1
  | updateAnswer => some 2
  | terminationAnswer => some 3
  | reauthorize => none

end Kind

/-- The policy data of a message. -/
structure Decision where
  rates : RatePair := {}
  qos : Qos := {}
  /-- The rules to install, in the order received. -/
  rules : List Rule := []
  deriving DecidableEq, Repr, Inhabited

end SessionControl.Policy

/-! ## Result codes -/

namespace SessionControl.ResultCode

def success : UInt32 := 2001
def authenticationRejected : UInt32 := 4001
def unableToComply : UInt32 := 5012

end SessionControl.ResultCode

namespace SessionControl.Policy

/-- A message of the policy server. -/
structure Message where
  kind : Kind
  resultCode : UInt32 := ResultCode.success
  /-- The error that the message points to. -/
  error : Option UInt32 := none
  decision : Decision := {}
  deriving DecidableEq, Repr, Inhabited

/-- The policy server reports success. -/
def Message.isSuccess (m : Message) : Bool :=
  m.resultCode == ResultCode.success

end SessionControl.Policy
