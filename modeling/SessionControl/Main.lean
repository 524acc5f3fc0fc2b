import SessionControl.CommandLine
import SessionControl.Config.OfYaml
import SessionControl.Controller.Basic

/-!
# The node as a program

Reads the configuration, brings the session replica and the controller up, and takes them down
when the standard input ends. The transports of the two interfaces are not part of it, and no
store for the replica can be reached.

## Main definitions

- `main` — runs the node
-/

namespace SessionControl.Node

/-- Writes a line of the log, if the options ask for it. -/
def say (o : Options) (level : Level) (text : String) : IO Unit := do
  if o.level.allows level then IO.eprintln (level.name ++ " " ++ text)

/-- Writes what a traced computation has noted. -/
def follow {α : Type} (o : Options) (x : Traced α) : IO α := do
  for n in x.notices do
    say o n.level n.text
  pure x.value

/-- The bytes of the configuration file, unless there is no such file. -/
def readConfigFile (path : String) : IO (Option ByteArray) := do
  try
    some <$> IO.FS.readBinFile path
  catch
    | .noFileOrDirectory .. => pure none
    | e => throw e

/-- The configuration, with the defaults where there is no file. -/
def loadConfig (o : Options) : IO (Except ConfigError Config) := do
  match ← readConfigFile o.configPath with
  | none =>
    say o .info s!"Configuration file not found: {o.configPath}, using defaults"
    pure (.ok {})
  | some bytes =>
    say o .info s!"Loading configuration from {o.configPath}"
    pure (Config.ofFile (some bytes))

partial def waitForEnd (input : IO.FS.Stream) : IO Unit := do
  let line ← input.getLine
  if !line.isEmpty then waitForEnd input

def run (o : Options) (config : Config) : IO Unit := do
  say o .info config.summary
  let controller := Controller.new config OfflineStore.mk
  let replica ← follow o controller.replica.connect
  say o .info "SMF context initialized"
  say o .info "NextGCore SMF ready"
  waitForEnd (← IO.getStdin)
  say o .info "Shutting down..."
  let controller ← follow o { controller with replica }.removeAll
  let _ ← follow o controller.replica.disconnect
  say o .info "SMF context finalized"
  say o .info "NextGCore SMF stopped"

def start (args : List String) : IO UInt32 := do
  match Options.read? {} args with
  | none =>
    IO.eprintln Options.usage
    pure 2
  | some o =>
    say o .info "NextGCore SMF v0.1.0 starting..."
    match ← loadConfig o with
    | .ok config =>
      run o config
      pure 0
    | .error e =>
      IO.eprintln s!"Error: Failed to load configuration {o.configPath}: {e.message}"
      pure 1

end SessionControl.Node

def main (args : List String) : IO UInt32 :=
  SessionControl.Node.start args
