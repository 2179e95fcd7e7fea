import GlobalHotkeys.Capture.Session
import GlobalHotkeys.Portal.Basic
import GlobalHotkeys.Provider.Null
import GlobalHotkeys.Provider.Basic

namespace GlobalHotkeys

structure Machine (World : Type) where
  bus : Bus World
  keyboards : KeyboardAccess World
  environment : Run World Environment
  inInputGroup : Bool

inductive HotkeyProvider where
  | portal (provider : PortalProvider Binding)
  | evdev (listener : Listener Binding)
  | null (provider : NullProvider)

namespace HotkeyProvider

def fresh : ProviderKind → HotkeyProvider
  | .portal => portal {}
  | .evdev => evdev {}
  | .null => null {}

def kind : HotkeyProvider → ProviderKind
  | portal _ => .portal
  | evdev _ => .evdev
  | null _ => .null

def capturesKeys : HotkeyProvider → Bool
  | evdev _ => true
  | _ => false

def register {World : Type} (provider : HotkeyProvider) (hotkey : String) (binding : Binding) :
    Run World (Except HotkeyError HotkeyProvider) := do
  match provider with
  | portal provider =>
    match provider.register hotkey binding with
    | .error cause => pure (.error cause)
    | .ok after =>
      if provider.isListening then Run.log .warn (PortalProvider.unboundMessage hotkey)
      pure (.ok (portal after))
  | evdev listener =>
    match listener.register hotkey binding with
    | .error cause => pure (.error cause)
    | .ok after =>
      Run.log .debug s!"Registered hotkey: {normalizeHotkey hotkey}"
      pure (.ok (evdev after))
  | null provider =>
    Run.log .debug s!"Accepted hotkey '{hotkey}' (null provider, will not fire)"
    pure (.ok (null (provider.register hotkey)))

def startListener {World : Type} (keyboards : KeyboardAccess World) (listener : Listener Binding) :
    Run World (Except HotkeyError HotkeyProvider) := do
  if listener.isListening then return .error .alreadyStarted
  match listener.start (← keyboards.openAll) with
  | .error cause => pure (.error cause)
  | .ok after =>
    Run.log .info
      (s!"Listening on {after.openKeyboards.length} keyboard device(s) for " ++
        s!"{after.table.length} hotkey(s)")
    pure (.ok (evdev after))

def start {World : Type} (machine : Machine World) (provider : HotkeyProvider) :
    Run World (Except HotkeyError HotkeyProvider) := do
  match provider with
  | portal provider =>
    let after ← (PortalProvider.start machine.bus provider).run
    pure (after.map portal)
  | evdev listener => startListener machine.keyboards listener
  | null provider =>
    match provider.start with
    | .error cause => pure (.error cause)
    | .ok after =>
      Run.logAll (provider.startLog (← machine.environment) machine.inInputGroup)
      pure (.ok (null after))

def stopLog : HotkeyProvider → List LogLine
  | portal provider => provider.stopLog
  | evdev listener =>
    if listener.isListening then
      [{ level := .debug, message := s!"All {listener.openKeyboards.length} listener(s) stopped" }]
    else []
  | null _ => []

def captureKeys {World : Type} (keyboards : KeyboardAccess World) (limit : Duration) :
    Run World (Except HotkeyError String) := do
  let opened ← keyboards.openAll
  let captured := captureOnce opened limit (← keyboards.listen limit)
  if let .ok hotkey := captured then
    Run.log .info s!"Captured hotkey: {hotkey}"
  pure captured

end HotkeyProvider

def Machine.providers {World : Type} (machine : Machine World) :
    Providers World HotkeyProvider where
  create kind := pure (.fresh kind)
  name provider := provider.kind.name
  isSupported
    | .portal _ => Portal.isSupported machine.bus
    | .evdev _ => machine.keyboards.present
    | .null _ => pure true
  register := HotkeyProvider.register
  start := HotkeyProvider.start machine
  stop provider := Run.logAll provider.stopLog
  capturesKeys provider := pure provider.capturesKeys
  capture
    | .evdev _, limit => HotkeyProvider.captureKeys machine.keyboards limit
    | provider, _ => pure (.error (.captureNotSupported provider.kind.name))

end GlobalHotkeys
