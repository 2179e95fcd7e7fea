import GlobalHotkeys.Error
import GlobalHotkeys.Run
import GlobalHotkeys.Text.Basic
import GlobalHotkeys.Text.LowerCase

namespace GlobalHotkeys

inductive ProviderKind where
  | portal
  | evdev
  | null
  deriving DecidableEq, Repr

def ProviderKind.name : ProviderKind → String
  | portal => "dbus"
  | evdev => "evdev"
  | null => "null"

inductive ProviderChoice where
  | auto | dbus | evdev
  deriving DecidableEq, Repr

namespace ProviderChoice

def name : ProviderChoice → String
  | auto => "auto"
  | dbus => "dbus"
  | evdev => "evdev"

def ofName? : String → Option ProviderChoice
  | "auto" => some auto
  | "dbus" => some dbus
  | "evdev" => some evdev
  | _ => none

/-- Read a choice in any case and between blanks. No text means `auto`, and `portal` is another name
of `dbus`; what is no choice is answered in the form it was compared in. -/
def parse (input : String) : Except String ProviderChoice :=
  match Text.lowerCase (Text.trim input) with
  | "" | "auto" => .ok auto
  | "dbus" | "portal" => .ok dbus
  | "evdev" => .ok evdev
  | other => .error other

end ProviderChoice

inductive Binding where
  | recording
  | action (name : String)
  deriving DecidableEq, Repr

/-- How a callback ended: without failure, or with a chain of reasons, the outermost one first. -/
abbrev CallbackResult := Option (List String)

def failureChain (reasons : List String) : String :=
  String.intercalate ": " reasons

def callbackFailureMessage (id : String) (reasons : List String) : String :=
  (HotkeyError.callback s!"{id}: {failureChain reasons}").message

def dispatch {World : Type} (id : String) (callback : Run World CallbackResult) :
    Run World Unit := do
  match ← callback with
  | none => pure ()
  | some reasons =>
    Run.log .warn (callbackFailureMessage id reasons)

/-- How to make and use providers. A `Provider` is one of them in its present state; of one that
fails to start nothing is kept. -/
structure Providers (World Provider : Type) where
  create : ProviderKind → Run World Provider
  name : Provider → String
  isSupported : Provider → Run World Bool
  register : Provider → (hotkey : String) → Binding → Run World (Except HotkeyError Provider)
  start : Provider → Run World (Except HotkeyError Provider)
  stop : Provider → Run World Unit
  capturesKeys : Provider → Run World Bool
  capture : Provider → (limit : Duration) → Run World (Except HotkeyError String)

end GlobalHotkeys
