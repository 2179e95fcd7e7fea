import GlobalHotkeys.Duration

namespace GlobalHotkeys

inductive HotkeyError where
  | unsupported (provider : String)
  | alreadyStarted
  | alreadyRegistered (hotkey : String)
  | protocol (reason : String)
  | deviceAccess (device : String)
  | noKeyboard
  | unknownKey (name : String)
  | evdev (reason : String)
  | captureTimeout (limit : Duration)
  | captureCancelled
  | captureNotSupported (provider : String)
  | invalidCapture (hotkey : String)
  | callback (failure : String)
  deriving DecidableEq, Repr

namespace HotkeyError

def message : HotkeyError → String
  | unsupported provider => s!"Hotkey provider '{provider}' is not supported in this environment"
  | alreadyStarted => "Hotkey provider already started"
  | alreadyRegistered hotkey => s!"Hotkey '{hotkey}' is already registered"
  | protocol reason => s!"Desktop portal error: {reason}"
  | deviceAccess device =>
    s!"Cannot open input device '{device}'. Is the user in the 'input' group?" ++
      "\n  Run: sudo usermod -aG input $USER\n  Then log out and back in."
  | noKeyboard => "No keyboard device found in /dev/input/"
  | unknownKey name => s!"Unknown key name: '{name}'. Use evtest or wev to find valid key names."
  | evdev reason => s!"evdev error: {reason}"
  | captureTimeout limit => s!"No key combination captured within {limit.text}"
  | captureCancelled => "Key capture cancelled"
  | captureNotSupported provider =>
    s!"Key capture is not supported by the '{provider}' provider"
  | invalidCapture hotkey =>
    s!"'{hotkey}' is not usable as a global hotkey. Add a modifier such as ctrl or alt."
  | callback failure => s!"Hotkey callback failed: {failure}"

def isCancelled : HotkeyError → Bool
  | captureCancelled => true
  | _ => false

def isTimeout : HotkeyError → Bool
  | captureTimeout _ => true
  | _ => false

end HotkeyError

end GlobalHotkeys
