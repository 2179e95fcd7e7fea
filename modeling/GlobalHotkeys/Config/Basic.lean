import GlobalHotkeys.NameMap
import GlobalHotkeys.Environment
import GlobalHotkeys.Error
import GlobalHotkeys.Files.IoError
import GlobalHotkeys.Provider.Basic

namespace GlobalHotkeys

structure HotkeyConfig where
  startRecording : String := "ctrl+alt+r"
  provider : ProviderChoice := .auto
  actions : NameMap String := .empty
  deriving DecidableEq

def HotkeyConfig.actionHotkey (config : HotkeyConfig) (name : String) : String :=
  (config.actions.get? name).getD ""

structure Config where
  hotkey : HotkeyConfig := {}
  deriving DecidableEq

inductive ConfigError where
  | unknownProvider (name : String)
  | unreadable (cause : IoError)
  | notText
  | invalid (reason : String)
  | noDirectory (cause : IoError)
  | unwritable (cause : IoError)
  | alreadyExists (quotedPath : String)
  deriving DecidableEq, Repr

def ConfigError.message : ConfigError → String
  | unknownProvider name =>
    s!"Unknown hotkey provider '{name}' (expected auto, dbus or evdev)"
  | unreadable cause => s!"Failed to read config: {cause.message}"
  | notText => "Failed to read config: stream did not contain valid UTF-8"
  | invalid reason => s!"Invalid config: {reason}"
  | noDirectory cause => s!"Failed to create config dir: {cause.message}"
  | unwritable cause => s!"Failed to write config: {cause.message}"
  | alreadyExists quotedPath => s!"Config file already exists: {quotedPath}"

inductive Failure where
  | config (cause : ConfigError)
  | hotkey (cause : HotkeyError)
  | io (cause : IoError)
  deriving DecidableEq, Repr

def Failure.message : Failure → String
  | config cause => s!"Configuration error: {cause.message}"
  | hotkey cause => s!"Hotkey error: {cause.message}"
  | io cause => s!"IO error: {cause.message}"

def ProviderChoice.read (text : String) : Except ConfigError ProviderChoice :=
  (ProviderChoice.parse text).mapError .unknownProvider

namespace Config

def withHotkeyVariable (config : Config) (vars : Variables) : Config :=
  match vars "DICTKEY_HOTKEY" with
  | some hotkey =>
    if Text.isBlankText hotkey then config
    else { config with hotkey := { config.hotkey with startRecording := hotkey } }
  | none => config

def withProviderVariable (config : Config) (vars : Variables) : Except ConfigError Config :=
  match vars "DICTKEY_PROVIDER" with
  | some text => do
    let provider ← ProviderChoice.read text
    pure { config with hotkey := { config.hotkey with provider } }
  | none => pure config

def withVariables (config : Config) (vars : Variables) : Except ConfigError Config :=
  (config.withHotkeyVariable vars).withProviderVariable vars

/-- The settings changed by the command line, which wins over everything else. -/
def withOverrides (config : Config) (hotkey : Option String) (provider : Option ProviderChoice) :
    Config :=
  { config with hotkey :=
      { config.hotkey with
        startRecording := hotkey.getD config.hotkey.startRecording
        provider := provider.getD config.hotkey.provider } }

end Config

end GlobalHotkeys
