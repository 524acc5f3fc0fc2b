import SessionControl.Config.Basic
import SessionControl.Trace.Notice

/-!
# The command line

## Main definitions

- `Options`, `Options.read?` — what the arguments of the program say
- `Level.ofName`, `Level.allows` — which notices are shown
- `Config.summary`, `ConfigError.message` — how a configuration, or the lack of one, is reported
-/

namespace SessionControl

namespace Level

/-- How much is shown at a level; each level shows what the ones before it show. -/
def verbosity : Level → Nat
  | error => 0
  | warn => 1
  | info => 2
  | debug => 3

/-- A notice of the level `n` is shown at the level `l`. -/
def allows (l n : Level) : Bool :=
  n.verbosity ≤ l.verbosity

/-- The level of a name in either case; other names mean `info`. -/
def ofName (name : String) : Level :=
  match name.toLower with
  | "trace" | "debug" => .debug
  | "warn" => .warn
  | "error" => .error
  | _ => .info

end Level

structure Options where
  configPath : String := "/etc/nextgcore/smf.yaml"
  level : Level := .info
  deriving DecidableEq, Repr

namespace Options

/-- The options that some arguments set, starting from `o`. The log has no colors, so an argument
that turns them off changes nothing. -/
def read? (o : Options) : List String → Option Options
  | [] => some o
  | "-c" :: path :: args | "--config" :: path :: args => read? { o with configPath := path } args
  | "-e" :: name :: args | "--log-level" :: name :: args =>
    read? { o with level := .ofName name } args
  | "-m" :: args | "--no-color" :: args => read? o args
  | _ => none

def usage : String :=
  "Usage: nextgcore-smfd [-c|--config PATH] [-e|--log-level LEVEL] [-m|--no-color]"

end Options

/-- The settings that are reported when the node starts. -/
def Config.summary (c : Config) : String :=
  s!"SMF config: ims_dnn={c.voiceNetwork}, max_num_of_flow={c.flowLimit}, " ++
    s!"t3_response={c.roaming.responseSeconds.toNat}s"

def ConfigError.message : ConfigError → String
  | unreadable => "Cannot read configuration"
  | malformed => "Parse error"
  | invalid flaw => flaw.message

end SessionControl
