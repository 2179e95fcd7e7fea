import GlobalHotkeys.Text.Basic

namespace GlobalHotkeys

inductive Runtime where
  | system | appImage | flatpak
  deriving DecidableEq, Repr

def Runtime.name : Runtime → String
  | system => "system"
  | appImage => "appimage"
  | flatpak => "flatpak"

abbrev Variables := String → Option String

structure Environment where
  runtime : Runtime
  desktop : String
  deriving DecidableEq, Repr

namespace Environment

/-- A variable counts as a mark of a package only if it is not empty. A Flatpak sandbox wins over an
AppImage unpacked inside it. -/
def detect (vars : Variables) : Environment :=
  let marked (name : String) : Bool := (vars name).any (· != "")
  { runtime :=
      if marked "FLATPAK_ID" then .flatpak
      else if marked "APPIMAGE" || marked "APPDIR" then .appImage
      else .system
    desktop := (vars "XDG_CURRENT_DESKTOP").getD "" }

def desktopIs (environment : Environment) (name : String) : Bool :=
  (Text.split ':' environment.desktop).any fun part =>
    Text.sameUpToAsciiCase (Text.trim part) name

def isGnome (environment : Environment) : Bool :=
  environment.desktopIs "gnome"

def isKde (environment : Environment) : Bool :=
  environment.desktopIs "kde"

end Environment

end GlobalHotkeys
