import SessionControl.Config.Basic
import SessionControl.Json.Value

/-!
# Configuration from JSON

A group of settings is an object, or an array with the settings in their order. Settings that
are missing have their defaults, and members that are no settings do not matter.

## Main definitions

- `Config.ofJson?` — the configuration that a JSON value describes
- `Config.ofJson` — the usable configuration that a JSON value describes
-/

namespace SessionControl

open Address (V4 V6)

def MeterConfig.ofJson? (v : Json) : Option MeterConfig := do
  let [seconds, volume] ← v.fields? ["time_threshold", "volume_threshold"] | none
  let d : MeterConfig := {}
  let seconds ← settingOr d.seconds.toNat (Json.natural? UInt32.size) seconds
  let volume ← settingOr d.volume.toNat (Json.natural? UInt64.size) volume
  pure { seconds := seconds.toUInt32, volume := volume.toUInt64 }

def RoamingConfig.ofJson? (v : Json) : Option RoamingConfig := do
  let [seconds] ← v.fields? ["t3_response"] | none
  let d : RoamingConfig := {}
  let seconds ← settingOr d.responseSeconds.toNat (Json.natural? UInt64.size) seconds
  pure { responseSeconds := seconds.toUInt64 }

def ReplicaConfig.ofJson? (v : Json) : Option ReplicaConfig := do
  let [enabled, host, port, keyPrefix] ← v.fields? ["enabled", "host", "port", "key_prefix"]
    | none
  let d : ReplicaConfig := {}
  let enabled ← settingOr d.enabled Json.bool? enabled
  let host ← settingOr d.host Json.text? host
  let port ← settingOr d.port.toNat (Json.natural? UInt16.size) port
  let keyPrefix ← settingOr d.keyPrefix Json.text? keyPrefix
  pure { enabled, host, port := port.toUInt16, keyPrefix }

def Address.V4.ofJson? (v : Json) : Option V4 := do
  V4.parse? (← v.text?)

def Address.V6.ofJson? (v : Json) : Option V6 := do
  V6.parse? (← v.text?)

def Config.ofJson? (v : Json) : Option Config := do
  let [name, voice, flows, addr, addr6, meter, roaming, replica] ← v.fields?
      ["name", "ims_dnn", "max_num_of_flow", "gtpu_addr", "gtpu_addr6", "urr", "s8", "mirror"]
    | none
  let d : Config := {}
  let name ← settingOr d.name Json.text? name
  let voiceNetwork ← settingOr d.voiceNetwork Json.text? voice
  let flowLimit ← settingOr d.flowLimit (Json.natural? UInt64.size) flows
  let tunnelAddr ← settingOr d.tunnelAddr (Json.nullable? V4.ofJson?) addr
  let tunnelAddr6 ← settingOr d.tunnelAddr6 (Json.nullable? V6.ofJson?) addr6
  let meter ← settingOr d.meter MeterConfig.ofJson? meter
  let roaming ← settingOr d.roaming RoamingConfig.ofJson? roaming
  let replica ← settingOr d.replica ReplicaConfig.ofJson? replica
  pure { name, voiceNetwork, flowLimit, tunnelAddr, tunnelAddr6, meter, roaming, replica }

/-- The configuration that a JSON value describes, if it meets all conditions. -/
def Config.ofJson (v : Json) : Except ConfigError Config :=
  match ofJson? v with
  | some c => c.check
  | none => .error .malformed

end SessionControl
