import SessionControl.Config.Basic
import SessionControl.Yaml.Document

/-!
# Configuration from YAML

A configuration file is a mapping whose member `smf` holds the settings. A group of settings is a
mapping as well, and settings that are missing have their defaults.

## Main definitions

- `Config.ofDocument?` — the configuration that a document describes
- `Config.ofText` — the usable configuration that a text describes
- `Config.ofFile` — the usable configuration in a file
-/

namespace SessionControl

open Address (V4 V6)
open Yaml (Document Node)

def MeterConfig.ofNode? (doc : Document) (v : Node Nat) : Option MeterConfig := do
  let [seconds, volume] ← doc.fields? ["time_threshold", "volume_threshold"] v | none
  let d : MeterConfig := {}
  let seconds ← settingOr d.seconds.toNat (doc.natural? UInt32.size) seconds
  let volume ← settingOr d.volume.toNat (doc.natural? UInt64.size) volume
  pure { seconds := seconds.toUInt32, volume := volume.toUInt64 }

def RoamingConfig.ofNode? (doc : Document) (v : Node Nat) : Option RoamingConfig := do
  let [seconds] ← doc.fields? ["t3_response"] v | none
  let d : RoamingConfig := {}
  let seconds ← settingOr d.responseSeconds.toNat (doc.natural? UInt64.size) seconds
  pure { responseSeconds := seconds.toUInt64 }

def ReplicaConfig.ofNode? (doc : Document) (v : Node Nat) : Option ReplicaConfig := do
  let [enabled, host, port, keyPrefix] ← doc.fields? ["enabled", "host", "port", "key_prefix"] v
    | none
  let d : ReplicaConfig := {}
  let enabled ← settingOr d.enabled doc.bool? enabled
  let host ← settingOr d.host doc.text? host
  let port ← settingOr d.port.toNat (doc.natural? UInt16.size) port
  let keyPrefix ← settingOr d.keyPrefix doc.text? keyPrefix
  pure { enabled, host, port := port.toUInt16, keyPrefix }

def Address.V4.ofNode? (doc : Document) (v : Node Nat) : Option V4 := do
  V4.parse? (← doc.text? v)

def Address.V6.ofNode? (doc : Document) (v : Node Nat) : Option V6 := do
  V6.parse? (← doc.text? v)

namespace Config

def ofNode? (doc : Document) (v : Node Nat) : Option Config := do
  let [name, voice, flows, addr, addr6, meter, roaming, replica] ← doc.fields?
      ["name", "ims_dnn", "max_num_of_flow", "gtpu_addr", "gtpu_addr6", "urr", "s8", "mirror"] v
    | none
  let d : Config := {}
  let name ← settingOr d.name doc.text? name
  let voiceNetwork ← settingOr d.voiceNetwork doc.text? voice
  let flowLimit ← settingOr d.flowLimit (doc.natural? UInt64.size) flows
  let tunnelAddr ← settingOr d.tunnelAddr (doc.nullable? (V4.ofNode? doc)) addr
  let tunnelAddr6 ← settingOr d.tunnelAddr6 (doc.nullable? (V6.ofNode? doc)) addr6
  let meter ← settingOr d.meter (MeterConfig.ofNode? doc) meter
  let roaming ← settingOr d.roaming (RoamingConfig.ofNode? doc) roaming
  let replica ← settingOr d.replica (ReplicaConfig.ofNode? doc) replica
  pure { name, voiceNetwork, flowLimit, tunnelAddr, tunnelAddr6, meter, roaming, replica }

def ofDocument? (doc : Document) : Option Config :=
  match doc.root with
  | none => some {}
  | some root => do
    let [settings] ← doc.fields? ["smf"] root | none
    settingOr {} (ofNode? doc) settings

/-- The configuration that a text describes, if it meets all conditions. -/
def ofText (s : String) : Except ConfigError Config :=
  match (Document.parse? s).bind ofDocument? with
  | some c => c.check
  | none => .error .malformed

/-- The configuration in a file with the given bytes, if there is such a file. -/
def ofFile (bytes : Option ByteArray) : Except ConfigError Config :=
  match bytes.bind String.fromUTF8? with
  | some s => ofText s
  | none => .error .unreadable

end Config

end SessionControl
