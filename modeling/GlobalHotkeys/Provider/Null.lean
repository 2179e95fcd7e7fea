import GlobalHotkeys.Error
import GlobalHotkeys.Log
import GlobalHotkeys.Provider.Remedy

namespace GlobalHotkeys

structure NullProvider where
  hotkeys : List String := []
  listening : Bool := false
  deriving DecidableEq, Repr

namespace NullProvider

def register (provider : NullProvider) (hotkey : String) : NullProvider :=
  { provider with hotkeys := provider.hotkeys.insert hotkey }

def start (provider : NullProvider) : Except HotkeyError NullProvider :=
  if provider.listening then .error .alreadyStarted else .ok { provider with listening := true }

def stop (provider : NullProvider) : NullProvider :=
  { provider with listening := false }

def startLog (provider : NullProvider) (environment : Environment) (inInputGroup : Bool) :
    List LogLine :=
  { level := .warn, message :=
      s!"No global hotkey backend available; {provider.hotkeys.length} hotkey(s) will not fire" } ::
    (remedySteps environment inInputGroup).map fun step => { level := .warn, message := "  " ++ step }

end NullProvider

end GlobalHotkeys
