import SessionControl.Replica.Store
import SessionControl.Policy.Rule
import SessionControl.Roaming.Machine
import SessionControl.Session.Error
import SessionControl.Text.Quoted

/-!
# Notices

What the program says about its work while it runs. A notice is a fact of the domain; its level
and its wording are given in one place.

## Main definitions

- `Level` — how serious a notice is
- `Notice` — the facts that are reported
- `Notice.level`, `Notice.text`, `Notice.line` — how a notice is shown
-/

namespace SessionControl

open Address (V4 V6)

inductive Level where
  | error
  | warn
  | info
  | debug
  deriving DecidableEq, Repr

def Level.name : Level → String
  | error => "ERROR"
  | warn => "WARN"
  | info => "INFO"
  | debug => "DEBUG"

inductive Notice where
  /-- A policy with so many rules is about to be installed. -/
  | installing (imsi : String) (rules : Nat)
  | installTeids (peer own : UInt32)
  | policyRefused (imsi : String) (resultCode : UInt32)
  | tooManyFlows (imsi rule : String) (flows limit : Nat)
  | meterRemoved (id : UrrId) (ratingGroup : UInt32)
  | meterCreated (id : UrrId) (ratingGroup : UInt32) (rules : Nat)
  | meterApplied (id : UrrId) (ratingGroup : UInt32)
  | ruleStored (position : Nat) (name : String) (ratingGroup : UInt32) (flowStatus : UInt8)
  | flowStored (position : Nat) (flow : Policy.Flow)
  | downlinkForwards
  | toControlForwards
  | localEndpoint (teid : UInt32) (addr : Option V4) (addr6 : Option V6)
  | uplinkFlow (description : String)
  | downlinkFlow (description : String)
  | ratesStored (imsi : String) (rates : RatePair)
  | qosStored (imsi : String) (index priority : UInt8)
  | terminationAcknowledged (imsi : String)
  | terminationTeids (peer own : UInt32)
  | updateIgnored (imsi : String)
  | bearerCreated (imsi : String) (ebi : UInt8) (uplink downlink : PdrId)
  | sessionAdded (imsi : String) (id : UInt64) (name : Option String)
  | sessionRemoved (imsi : String) (id : UInt64)
  /-- The machine is put into or out of use; the state names the occasion. -/
  | machineAt (state : Roaming.State)
  | eventArrived (imsi : String) (state : Roaming.State) (event : Roaming.Event)
  | eventIgnored (imsi : String) (state : Roaming.State) (event : Roaming.Event)
  | eventUnexpected (imsi : String) (state : Roaming.State) (event : Roaming.Event)
  | responseOverdue (imsi : String) (state : Roaming.State) (event : Roaming.Event)
  | stateChanged (imsi : String) (before after : Roaming.State)
  | requestArrived (imsi : String) (procedure : Roaming.Procedure)
  | commandArrived (imsi : String) (linkedBearer : Option UInt8)
  | userPlaneFailed (imsi : String) (request : UserPlaneRequest) (error : SessionError)
  | notSent (imsi : String) (message : Roaming.Message) (error : SessionError)
  | failureIndicated (imsi : String) (cause : Option UInt8)
  | responseAccepted (imsi : String) (procedure : Roaming.Procedure)
  | responseRejected (imsi : String) (procedure : Roaming.Procedure) (cause : UInt8)
  | responseWithoutCause (imsi : String) (procedure : Roaming.Procedure)
  | replicaDisabled
  | replicaConnected (host : String) (port : UInt16)
  | replicaRefused (host : String) (port : UInt16) (error : StoreError)
  | replicaSkipped
  | replicaFailed (key : String) (error : StoreError)
  | replicaDisconnected
  deriving DecidableEq, Repr

namespace Notice

def level : Notice → Level
  | policyRefused .. | tooManyFlows .. | eventUnexpected .. | responseOverdue ..
  | userPlaneFailed .. | notSent .. | failureIndicated _ (some _) | responseRejected ..
  | responseWithoutCause .. => .error
  | eventIgnored .. | replicaRefused .. | replicaFailed .. => .warn
  | installing .. | meterRemoved .. | meterCreated .. | meterApplied .. | downlinkForwards
  | toControlForwards | terminationAcknowledged .. | sessionAdded .. | sessionRemoved ..
  | requestArrived .. | commandArrived .. | responseAccepted .. | replicaDisabled
  | replicaConnected .. | replicaDisconnected => .info
  | installTeids .. | ruleStored .. | flowStored .. | localEndpoint .. | uplinkFlow ..
  | downlinkFlow .. | ratesStored .. | qosStored .. | terminationTeids .. | updateIgnored ..
  | bearerCreated .. | machineAt .. | eventArrived .. | stateChanged ..
  | failureIndicated _ none | replicaSkipped => .debug

def text : Notice → String
  | installing imsi rules => s!"[{imsi}] Gx CCA-Initial: installing {rules} PCC rules"
  | installTeids peer own =>
    s!"    SGW_S5C_TEID[0x{Text.hex peer.toNat}] PGW_S5C_TEID[0x{Text.hex own.toNat}]"
  | policyRefused imsi resultCode =>
    s!"[{imsi}] Gx CCA-I failed with result code {resultCode.toNat}"
  | tooManyFlows imsi rule flows limit =>
    s!"[{imsi}] Too many flows in PCC rule [{rule}] ({flows} > {limit})"
  | meterRemoved id ratingGroup =>
    s!"    Removed URR[{id.toNat}] for Rating Group[{ratingGroup.toNat}]"
  | meterCreated id ratingGroup rules =>
    s!"    Created URR[{id.toNat}] for Rating Group[{ratingGroup.toNat}] with {rules} rules"
  | meterApplied id ratingGroup =>
    s!"    Setting up URR[{id.toNat}] for Rating Group[{ratingGroup.toNat}]"
  | ruleStored position name ratingGroup flowStatus =>
    s!"PCC Rule[{position}] Name[{name}] Rating Group[{ratingGroup.toNat}]" ++
      s!" Flow Status[{flowStatus.toNat}]"
  | flowStored position flow =>
    s!"  - Flow[{position}]: {flow.description} (dir:{flow.direction.name})"
  | downlinkForwards => "    Configured DL FAR with FORWARD action"
  | toControlForwards => "    Configured UP2CP FAR with FORWARD action"
  | localEndpoint teid addr addr6 =>
    s!"    PGW_S5U_TEID[0x{Text.hex teid.toNat}] addr[{Text.optional V4.text addr}]" ++
      s!" addr6[{Text.optional V6.text addr6}]"
  | uplinkFlow description => s!"        * UL Flow: {description}"
  | downlinkFlow description => s!"        * DL Flow: {description}"
  | ratesStored imsi rates =>
    s!"[{imsi}] APN-AMBR UL[{rates.uplink.toNat}] DL[{rates.downlink.toNat}]"
  | qosStored imsi index priority =>
    s!"[{imsi}] Bearer QoS QCI[{index.toNat}] ARP[{priority.toNat}]"
  | terminationAcknowledged imsi => s!"[{imsi}] Gx CCA-Termination acknowledged"
  | terminationTeids peer own =>
    s!"    SGW_S5C_TEID[0x{Text.hex peer.toNat}] SMF_N4_TEID[0x{Text.hex own.toNat}]"
  | updateIgnored imsi => s!"[{imsi}] Gx CCA-Update ignored"
  | bearerCreated imsi ebi uplink downlink =>
    s!"[{imsi}] default bearer EBI[{ebi.toNat}] UL PDR[{uplink.toNat}]" ++
      s!" DL PDR[{downlink.toNat}]"
  | sessionAdded imsi id name =>
    s!"[{imsi}] session added (id={id.toNat}, apn={Text.optional Text.quoted name})"
  | sessionRemoved imsi id => s!"[{imsi}] session removed (id={id.toNat})"
  | machineAt state => state.name
  | eventArrived imsi state event => s!"[{imsi}] {state.name}: {event.name}"
  | eventIgnored imsi state event => s!"[{imsi}] {event.name} ignored in {state.name}"
  | eventUnexpected imsi state event =>
    s!"[{imsi}] unexpected {event.name} (xact {event.transaction.toNat}) in {state.name}"
  | responseOverdue imsi state event =>
    s!"[{imsi}] {event.name} (xact {event.transaction.toNat}) in {state.name}"
  | stateChanged imsi before after => s!"[{imsi}] {before.name} -> {after.name}"
  | requestArrived imsi procedure => s!"[{imsi}] S8 {procedure.name} Request"
  | commandArrived imsi linkedBearer =>
    let bearer := Text.optional (fun b => toString b.toNat) linkedBearer
    s!"[{imsi}] S8 Bearer Resource Command (LBI={bearer})"
  | userPlaneFailed imsi request error =>
    s!"[{imsi}] PFCP {request.name} failed: {error.message}"
  | notSent imsi message error => s!"[{imsi}] {message.name} not sent: {error.message}"
  | failureIndicated imsi (some cause) =>
    s!"[{imsi}] S8 Bearer Resource Failure Indication received: cause={cause.toNat}"
  | failureIndicated imsi none =>
    s!"[{imsi}] S8 Bearer Resource Failure Indication without cause"
  | responseAccepted imsi procedure => s!"[{imsi}] S8 {procedure.name} Response accepted"
  | responseRejected imsi procedure cause =>
    let known := (Cause.name? cause).getD "Unknown"
    s!"[{imsi}] S8 {procedure.name} Response rejected (cause={cause.toNat} {known})"
  | responseWithoutCause imsi procedure =>
    s!"[{imsi}] S8 {procedure.name} Response without cause"
  | replicaDisabled => "Session mirror disabled"
  | replicaConnected host port => s!"Session mirror connected to {host}:{port.toNat}"
  | replicaRefused host port error =>
    s!"Session mirror connection to {host}:{port.toNat} failed: {error.message}"
  | replicaSkipped => "Session mirror not connected, update skipped"
  | replicaFailed key error => s!"Session mirror update of {key} failed: {error.message}"
  | replicaDisconnected => "Session mirror disconnected"

/-- A notice as one line of a log. -/
def line (n : Notice) : String :=
  n.level.name ++ " " ++ n.text

end Notice

end SessionControl
