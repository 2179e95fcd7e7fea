import GlobalHotkeys.Config.Storage
import GlobalHotkeys.Manager.Recording

/-!
The daemon: a manager that runs until a signal ends it, and that takes up changed settings when a
signal asks for that.
-/

namespace GlobalHotkeys

structure Host (World P : Type) where
  providers : Providers World P
  vars : Run World Variables
  files : Run World FileTree
  setFiles : FileTree → Run World Unit
  processId : Nat
  inInputGroup : Bool

/-- What the command line says about the hotkeys; it wins over the file also after a reload. -/
structure Overrides where
  hotkey : Option String := none
  provider : Option ProviderChoice := none
  deriving DecidableEq, Repr

def Overrides.load (overrides : Overrides) (vars : Variables) (files : FileTree)
    (path : Option String) : Except ConfigError Config := do
  let config ← loadConfig vars files path
  pure (config.withOverrides overrides.hotkey overrides.provider)

def Overrides.read (hotkey provider : Option String) : Except ConfigError Overrides := do
  match provider with
  | none => pure { hotkey }
  | some text => do pure { hotkey, provider := some (← ProviderChoice.read text) }

def startConfig (vars : Variables) (files : FileTree) (path hotkey provider : Option String) :
    Except ConfigError (Config × Overrides) := do
  let config ← loadConfig vars files path
  let overrides ← Overrides.read hotkey provider
  pure (config.withOverrides overrides.hotkey overrides.provider, overrides)

inductive DaemonCallback where
  | dictationOn
  | dictationOff
  | trigger (action : String)
  deriving DecidableEq, Repr

namespace DaemonCallback

def message : DaemonCallback → String
  | dictationOn => "Dictation on"
  | dictationOff => "Dictation off"
  | trigger action => s!"Action triggered: {action}"

def call {World : Type} (callback : DaemonCallback) : Run World CallbackResult := do
  Run.log .info callback.message
  pure none

end DaemonCallback

inductive Ending where
  | interrupt
  | terminate
  deriving DecidableEq, Repr

def Ending.name : Ending → String
  | interrupt => "SIGINT"
  | terminate => "SIGTERM"

structure Daemon (P : Type) where
  config : Config
  configPath : Option String := none
  overrides : Overrides := {}
  manager : HotkeyManager P DaemonCallback
  pidFile : Option String := none

abbrev DaemonSteps (World P : Type) := StateT (Daemon P) (Run World)

namespace Daemon

variable {World P : Type}

def writePidFile (host : Host World P) : Run World (Option String) := do
  let path := Path.join (runtimeDirectory (← host.vars)) "pid"
  match (← host.files).createHolder path with
  | .error cause =>
    Run.log .warn s!"Failed to create PID file directory: {cause.message}"
    pure none
  | .ok files =>
    host.setFiles files
    match files.writeText path (toString host.processId) with
    | .error cause =>
      Run.log .warn s!"Failed to write PID file: {cause.message}"
      pure none
    | .ok files =>
      host.setFiles files
      Run.log .debug s!"PID file written: {Text.quoted path} (pid={host.processId})"
      pure (some path)

def removePidFile (host : Host World P) (path : String) : Run World Unit := do
  let files ← host.files
  if files.exists? path then
    match files.removeFile path with
    | .error cause => Run.log .warn s!"Failed to remove PID file: {cause.message}"
    | .ok files => host.setFiles files

def managerFor (environment : Environment) (config : HotkeyConfig) :
    HotkeyManager P DaemonCallback :=
  { config, environment
    callbacks := some { onStart := .dictationOn, onStop := .dictationOff }
    actions := config.actions.mapNames .trigger }

def buildManager (host : Host World P) (config : HotkeyConfig) :
    Run World (HotkeyManager P DaemonCallback) := do
  pure (managerFor (Environment.detect (← host.vars)) config)

def inManager {α : Type} (step : Managed World P DaemonCallback α) : DaemonSteps World P α := do
  let (value, manager) ← step (← get).manager
  modify fun daemon => { daemon with manager }
  pure value

def note (level : LogLevel) (message : String) : DaemonSteps World P Unit :=
  StateT.lift (Run.log level message)

/-- Start with these settings. Without hotkeys the daemon runs all the same: the user can mend what
is wrong and have the settings loaded again. -/
def launch (host : Host World P) (config : Config) (configPath : Option String)
    (overrides : Overrides) : Run World (Daemon P) := do
  Run.log .info "Starting dictkey daemon"
  let pidFile ← writePidFile host
  let fresh ← buildManager host config.hotkey
  let (started, manager) ← HotkeyManager.start host.providers fresh
  if let .error cause := started then
    Run.log .error s!"Hotkeys unavailable: {cause.message}"
    Run.log .info "Fix the problem above, then reload with: pkill -HUP dictkey"
  pure { config, configPath, overrides, manager, pidFile }

def sameActions (first second : HotkeyConfig) : Bool :=
  first.actions.names == second.actions.names

/-- Give up the manager for a fresh one with these settings. -/
def rebuild (host : Host World P) (config : HotkeyConfig) :
    DaemonSteps World P (Except HotkeyError Unit) := do
  inManager (HotkeyManager.stop host.providers)
  let manager ← buildManager host config
  modify fun daemon => { daemon with manager }
  inManager (HotkeyManager.start host.providers)

/-- Load the settings again and take them up; settings that cannot be loaded change nothing. -/
def reload (host : Host World P) : DaemonSteps World P Unit := do
  note .info "Received SIGHUP, reloading configuration"
  let daemon ← get
  let vars ← host.vars
  let files ← host.files
  StateT.lift (Run.logAll (loadLog vars files daemon.configPath))
  match daemon.overrides.load vars files daemon.configPath with
  | .error cause =>
    note .warn s!"Keeping previous configuration: {(Failure.config cause).message}"
  | .ok config =>
    modify fun daemon => { daemon with config }
    let result ←
      if sameActions daemon.config.hotkey config.hotkey then
        inManager (HotkeyManager.reload host.providers config.hotkey)
      else rebuild host config.hotkey
    if let .error cause := result then
      note .error s!"Hotkeys unavailable after reload: {cause.message}"

def finish (host : Host World P) (ending : Ending) : DaemonSteps World P Unit := do
  note .info s!"Received {ending.name}, shutting down..."
  inManager (HotkeyManager.stop host.providers)
  if let some path := (← get).pidFile then
    StateT.lift (removePidFile host path)
  note .info "Daemon stopped"

end Daemon

end GlobalHotkeys
