import SessionControl.Roaming.ResponseTimer
import SessionControl.RuleGraph.Rule
import SessionControl.Text.Blank

/-!
# Configuration

The settings of the node. Each one has a default, so that a configuration says only what differs.

## Main definitions

- `Config` and the groups of settings in it
- `Config.check` — the conditions that a configuration has to meet
- `ConfigError` — why there is no usable configuration
-/

namespace SessionControl

open Address (V4 V6)

structure MeterConfig where
  /-- Seconds after which usage is reported. -/
  seconds : UInt32 := 3600
  /-- Bytes after which usage is reported. -/
  volume : UInt64 := 1073741824
  deriving DecidableEq, Repr, Inhabited

structure RoamingConfig where
  /-- Seconds to wait for a response. -/
  responseSeconds : UInt64 := 3
  deriving DecidableEq, Repr, Inhabited

structure ReplicaConfig where
  enabled : Bool := false
  host : String := "localhost"
  port : UInt16 := 6379
  /-- What the keys of the records begin with. -/
  keyPrefix : String := "smf"
  deriving DecidableEq, Repr, Inhabited

structure Config where
  /-- The name of the node, shown in the records of the replica. -/
  name : String := "nextgcore-smfd"
  /-- The network of the voice service. Its sessions are not subject to policy results. -/
  voiceNetwork : String := "ims"
  /-- How many flows one policy rule may have. -/
  flowLimit : Nat := 8
  tunnelAddr : Option V4 := some V4.loopback
  tunnelAddr6 : Option V6 := none
  meter : MeterConfig := {}
  roaming : RoamingConfig := {}
  replica : ReplicaConfig := {}
  deriving DecidableEq, Repr, Inhabited

/-- What `f` makes of a written setting, or the default if the setting is missing. -/
def settingOr {α β : Type} (default : α) (f : β → Option α) : Option β → Option α
  | none => some default
  | some v => f v

/-- A condition on a configuration that is not met. -/
inductive ConfigFlaw where
  | blankVoiceNetwork
  | noFlows
  | noVolume
  | noTunnelAddress
  deriving DecidableEq, Repr

/-- The condition that a configuration with a flaw does not meet. -/
def ConfigFlaw.condition : ConfigFlaw → String
  | blankVoiceNetwork => "ims_dnn must not be empty"
  | noFlows => "max_num_of_flow must be at least 1"
  | noVolume => "urr.volume_threshold must be non-zero"
  | noTunnelAddress => "one of gtpu_addr/gtpu_addr6 is required"

def ConfigFlaw.message (flaw : ConfigFlaw) : String :=
  "Configuration validation error: " ++ flaw.condition

inductive ConfigError where
  /-- The file cannot be read as text. -/
  | unreadable
  /-- The text is not a configuration. -/
  | malformed
  | invalid (flaw : ConfigFlaw)
  deriving DecidableEq, Repr

namespace Config

/-- The first condition that a configuration does not meet. -/
def flaw? (c : Config) : Option ConfigFlaw :=
  if Text.isBlank c.voiceNetwork then some .blankVoiceNetwork
  else if c.flowLimit = 0 then some .noFlows
  else if c.meter.volume = 0 then some .noVolume
  else if c.tunnelAddr.isNone && c.tunnelAddr6.isNone then some .noTunnelAddress
  else none

/-- A configuration that meets all conditions, or the first one it does not meet. -/
def check (c : Config) : Except ConfigError Config :=
  match c.flaw? with
  | some flaw => .error (.invalid flaw)
  | none => .ok c

def responseTimer (c : Config) : Roaming.ResponseTimer :=
  .ofSeconds c.roaming.responseSeconds

/-- The end of a tunnel on this node, with the given number. -/
def tunnelEnd (c : Config) (teid : UInt32) : Endpoint :=
  { teid, addr := c.tunnelAddr, addr6 := c.tunnelAddr6 }

/-- A configuration without flaws passes the check unchanged, and only such a one passes. -/
theorem check_eq_ok_iff {c d : Config} : c.check = .ok d ↔ c.flaw? = none ∧ d = c := by
  unfold check
  cases c.flaw? with
  | none => simp [eq_comm]
  | some flaw => simp

end Config

end SessionControl
