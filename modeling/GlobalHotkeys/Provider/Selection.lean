import GlobalHotkeys.Environment
import GlobalHotkeys.Provider.Basic

namespace GlobalHotkeys

structure Supported where
  portal : Bool := false
  evdev : Bool := false
  deriving DecidableEq, Repr

namespace Supported

def contains (supported : Supported) : ProviderKind → Bool
  | .portal => supported.portal
  | .evdev => supported.evdev
  | .null => true

def set (supported : Supported) (kind : ProviderKind) (answer : Bool) : Supported :=
  match kind with
  | .portal => { supported with portal := answer }
  | .evdev => { supported with evdev := answer }
  | .null => supported

end Supported

def candidateOrder : Runtime → List ProviderKind
  | .flatpak => [.portal]
  | .appImage => [.evdev, .portal]
  | .system => [.portal, .evdev]

/-- The provider to use. A choice other than `auto` is taken without asking. -/
def selectProvider (choice : ProviderChoice) (runtime : Runtime) (supported : Supported) :
    ProviderKind :=
  match choice with
  | .dbus => .portal
  | .evdev => .evdev
  | .auto => ((candidateOrder runtime).find? supported.contains).getD .null

def otherProvider? : ProviderKind → Option ProviderKind
  | .portal => some .evdev
  | .evdev => some .portal
  | .null => none

/-- The provider to try after `primary` did not start. On GNOME and KDE, except from an AppImage,
such a failure is to be mended and not avoided; Flatpak has no access to keyboard devices. -/
def fallbackFor (primary : ProviderKind) (environment : Environment) : Option ProviderKind := do
  let other ← otherProvider? primary
  if (environment.isGnome || environment.isKde) && environment.runtime != .appImage then none
  else if environment.runtime == .flatpak && other == .evdev then none
  else some other

end GlobalHotkeys
