import GlobalHotkeys.Environment

namespace GlobalHotkeys

def portalCheck : String :=
  "Check: busctl --user introspect org.freedesktop.portal.Desktop /org/freedesktop/portal/desktop"

def deviceSteps (environment : Environment) (inInputGroup : Bool) : List String :=
  if environment.runtime == .flatpak then
    ["Running in Flatpak: only the desktop portal is available. Make sure " ++
      "xdg-desktop-portal and your desktop's portal backend are installed and running."]
  else
    ["For the evdev backend, add yourself to the input group: " ++
      "sudo usermod -aG input $USER (then log out and back in)"] ++
    (if inInputGroup then [] else ["You are currently NOT in the 'input' group"])

def portalStep (environment : Environment) : String :=
  if environment.isGnome then
    "GNOME: global shortcuts need GNOME 48+ with xdg-desktop-portal-gnome. " ++ portalCheck
  else if environment.isKde then
    "KDE: make sure xdg-desktop-portal-kde is installed. " ++ portalCheck
  else
    "Check that your compositor's portal implements GlobalShortcuts " ++
      "(e.g. xdg-desktop-portal-hyprland), or bind a compositor key to your app's control command"

def remedySteps (environment : Environment) (inInputGroup : Bool) : List String :=
  deviceSteps environment inInputGroup ++
    [portalStep environment,
     "Force a backend with provider = \"dbus\" or provider = \"evdev\" under [hotkey] in the config"]

end GlobalHotkeys
