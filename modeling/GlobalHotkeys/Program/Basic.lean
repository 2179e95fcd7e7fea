import GlobalHotkeys.CommandLine.Basic
import GlobalHotkeys.Daemon.Basic
import GlobalHotkeys.Program.Detection
import GlobalHotkeys.Program.Printed

namespace GlobalHotkeys

inductive Launched (P : Type) where
  | ended (printed : Printed)
  | running (daemon : Daemon P)

namespace Program

variable {World P : Type}

def version : String := "dictkey 0.3.1"

def explained (failure : Failure) : String :=
  match failure with
  | .io cause => failure.message ++ "\n\nCaused by:\n    " ++ cause.message
  | _ => failure.message

def logLevel (line : CommandLine) : LogLevel :=
  if line.quiet then .error
  else
    match line.verbosity with
    | 0 => .info
    | 1 => .debug
    | _ => .trace

def capture (host : Host World P) (config : Config) (seconds : Nat) : Run World Printed := do
  let manager ← Daemon.buildManager host config.hotkey
  if !(← manager.canCapture host.providers) then
    return Printed.failure "Key capture needs input device access, which is unavailable here"
  let prompted := ({} : Printed).complain
    [s!"Press the key combination to use (Esc to cancel, {seconds}s timeout)..."]
  match ← manager.capture host.providers (Duration.ofSeconds seconds) with
  | .ok hotkey => pure (prompted.say [hotkey])
  | .error .captureCancelled => pure (prompted.complain ["Cancelled"])
  | .error cause => pure (prompted.fail cause.message)

def detect (host : Host World P) (config : Config) (format : String) : Run World Printed := do
  let environment := Environment.detect (← host.vars)
  let supported ← HotkeyManager.probe host.providers environment
  let detection := Detection.ofSupported config.hotkey.provider environment supported
  pure (Printed.ofLines (
    if format == "json" then detection.jsonLines else detection.lines host.inInputGroup))

def initConfig (host : Host World P) (named : Option String) : Run World Printed := do
  match configPath? (← host.vars) named with
  | none => pure (.failure "Cannot determine config directory")
  | some path =>
    match writeDefaultConfig (← host.files) path with
    | .error failure => pure (.failure (explained failure))
    | .ok files =>
      host.setFiles files
      pure (Printed.ofLines [s!"Wrote default config to {Text.quoted path}"])

def configLines (config : HotkeyConfig) : List String :=
  ["Current Configuration", "", "=====================", "", "[hotkey]",
    "  start_recording = " ++ Text.quoted config.startRecording,
    "  provider = " ++ Text.quoted config.provider.name] ++
  (if config.actions.isEmpty then []
   else
    ["", "[hotkey.actions]"] ++ config.actions.entries.map fun (name, hotkey) =>
      "  " ++ name ++ " = " ++ Text.quoted hotkey)

def sourceLine (files : FileTree) : Option String → String
  | none => "Config file: (none)"
  | some path =>
    "Config file: " ++ Text.quoted path ++
      (if files.exists? path then "" else " (not found, using defaults)")

def showConfig (host : Host World P) (config : Config) (named : Option String) :
    Run World Printed := do
  let path := configPath? (← host.vars) named
  pure (Printed.ofLines (configLines config.hotkey ++ ["", "---", sourceLine (← host.files) path]))

def perform (host : Host World P) (line : CommandLine) : Run World (Launched P) := do
  let vars ← host.vars
  let files ← host.files
  Run.logAll (loadLog vars files line.config)
  match startConfig vars files line.config line.hotkey line.provider with
  | .error cause => pure (.ended (.failure (explained (.config cause))))
  | .ok (config, overrides) =>
    match line.command.getD .daemon with
    | .daemon => do pure (.running (← Daemon.launch host config line.config overrides))
    | .capture seconds => do pure (.ended (← capture host config seconds))
    | .detect format => do pure (.ended (← detect host config format))
    | .config true => do pure (.ended (← initConfig host line.config))
    | .config false => do pure (.ended (← showConfig host config line.config))

def stopped (stop : CommandLine.Stop) : Printed :=
  { exitCode := stop.exitCode
    output := match stop with
      | .version => version ++ "\n"
      | _ => "" }

def launch (host : Host World P) (arguments : List String) : Run World (Launched P) :=
  match CommandLine.parse arguments with
  | .error stop => pure (.ended (stopped stop))
  | .ok line => perform host line

end Program

end GlobalHotkeys
