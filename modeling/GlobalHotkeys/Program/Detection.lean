import GlobalHotkeys.Manager.Basic
import GlobalHotkeys.Provider.Remedy
import GlobalHotkeys.Text.Quoted

namespace GlobalHotkeys

structure Detection where
  environment : Environment
  choice : ProviderChoice
  supported : Supported
  selected : ProviderKind
  fallback : Option ProviderKind
  deriving DecidableEq, Repr

namespace Detection

def ofSupported (choice : ProviderChoice) (environment : Environment) (supported : Supported) :
    Detection :=
  let selected := selectProvider choice environment.runtime supported
  { environment, choice, supported, selected, fallback := fallbackFor selected environment }

def yesNo (value : Bool) : String :=
  if value then "yes" else "no"

def advice (detection : Detection) (inInputGroup : Bool) : List String :=
  if detection.selected = .null then
    ["", "No working hotkey backend. To fix:"] ++
      (remedySteps detection.environment inInputGroup).map fun step => "  - " ++ step
  else []

def lines (detection : Detection) (inInputGroup : Bool) : List String :=
  let desktop := detection.environment.desktop
  [ "Runtime:          " ++ detection.environment.runtime.name,
    "Desktop:          " ++ (if desktop == "" then "(unknown)" else desktop),
    "Provider setting: " ++ detection.choice.name,
    "Portal supported: " ++ yesNo detection.supported.portal,
    "Evdev supported:  " ++ yesNo detection.supported.evdev,
    "Selected:         " ++ detection.selected.name,
    "Fallback:         " ++ (detection.fallback.map ProviderKind.name).getD "none" ] ++
  detection.advice inInputGroup

def members (detection : Detection) : List (String × String) :=
  [ ("runtime", Text.jsonString detection.environment.runtime.name),
    ("desktop", Text.jsonString detection.environment.desktop),
    ("override_provider", Text.jsonString detection.choice.name),
    ("portal_supported", toString detection.supported.portal),
    ("evdev_supported", toString detection.supported.evdev),
    ("selected", Text.jsonString detection.selected.name),
    ("fallback", (detection.fallback.map fun kind => Text.jsonString kind.name).getD "null") ]

def jsonLines (detection : Detection) : List String :=
  let written := detection.members.map fun (name, value) =>
    "  " ++ Text.jsonString name ++ ": " ++ value
  ["\x7b", Text.join ",\n" written, "\x7d"]

end Detection

end GlobalHotkeys
