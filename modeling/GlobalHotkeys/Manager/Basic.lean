import GlobalHotkeys.Config.Basic
import GlobalHotkeys.Manager.State
import GlobalHotkeys.Provider.Selection
import GlobalHotkeys.Text.Quoted

/-!
The manager of the hotkeys: it chooses a provider, gives it the hotkeys and keeps it running.
-/

namespace GlobalHotkeys

structure RecordingCallbacks (κ : Type) where
  onStart : κ
  onStop : κ

/-- A manager of providers of type `P`, whose callbacks are of type `κ`. -/
structure HotkeyManager (P κ : Type) where
  config : HotkeyConfig
  environment : Environment
  active : Option P := none
  state : ManagerState := .uninitialized
  recording : Bool := false
  callbacks : Option (RecordingCallbacks κ) := none
  actions : NameMap κ := .empty

abbrev Managed (World P κ : Type) := StateT (HotkeyManager P κ) (Run World)

namespace HotkeyManager

variable {World P κ : Type}

def setCallbacks (manager : HotkeyManager P κ) (callbacks : RecordingCallbacks κ) :
    HotkeyManager P κ :=
  { manager with callbacks := some callbacks }

/-- Give a name a callback. A running provider gets the action's hotkey at once, and if it refuses
that, the action is not added. -/
def addAction (providers : Providers World P) (name : String) (callback : κ) :
    Managed World P κ (Except HotkeyError Unit) := do
  let manager ← get
  if manager.actions.contains name then return .error (.alreadyRegistered name)
  let hotkey := manager.config.actionHotkey name
  match manager.active with
  | some provider =>
    if hotkey != "" then
      match ← providers.register provider hotkey (.action name) with
      | .error cause => return .error cause
      | .ok provider => set { manager with active := some provider }
  | none => pure ()
  modify fun manager => { manager with actions := manager.actions.insert name callback }
  pure (.ok ())

def probe (providers : Providers World P) (environment : Environment) : Run World Supported :=
  (candidateOrder environment.runtime).foldlM
    (fun supported kind => do
      let answer ← providers.isSupported (← providers.create kind)
      Run.log .debug s!"{kind.name} provider supported: {answer}"
      pure (supported.set kind answer)) {}

def select (providers : Providers World P) (config : HotkeyConfig) (environment : Environment) :
    Run World ProviderKind := do
  let supported ←
    if config.provider = .auto then probe providers environment
    else do
      Run.log .debug s!"Provider override '{config.provider.name}', skipping detection"
      pure {}
  let kind := selectProvider config.provider environment.runtime supported
  Run.log .info
    (s!"Selected {kind.name} hotkey provider (runtime: {environment.runtime.name}, " ++
      s!"desktop: {Text.quoted environment.desktop})")
  pure kind

def registerActions (providers : Providers World P) (config : HotkeyConfig) :
    List String → P → Run World P
  | [], provider => pure provider
  | name :: rest, provider => do
    let hotkey := config.actionHotkey name
    if hotkey == "" then
      Run.log .debug s!"Action '{name}' has no hotkey configured"
      registerActions providers config rest provider
    else
      match ← providers.register provider hotkey (.action name) with
      | .ok provider => registerActions providers config rest provider
      | .error cause =>
        Run.log .warn s!"Skipping action '{name}' ({hotkey}): {cause.message}"
        registerActions providers config rest provider

/-- Give a fresh provider the recording hotkey, which it must take, and those of the actions. -/
def registerAll (providers : Providers World P) (manager : HotkeyManager P κ) (provider : P) :
    Run World (Except HotkeyError P) := do
  match ← providers.register provider manager.config.startRecording .recording with
  | .error cause => pure (.error cause)
  | .ok provider =>
    pure (.ok (← registerActions providers manager.config manager.actions.names provider))

def note (level : LogLevel) (message : String) : Managed World P κ Unit :=
  StateT.lift (Run.log level message)

/-- Create a provider, give it the hotkeys and start it; if all goes well it is the active one. -/
def attempt (providers : Providers World P) (kind : ProviderKind) :
    Managed World P κ (Except HotkeyError Unit) := do
  let fresh ← providers.create kind
  match ← registerAll providers (← get) fresh with
  | .error cause => pure (.error cause)
  | .ok ready =>
    modify fun manager => { manager with state := .providerSelected kind }
    match ← providers.start ready with
    | .error cause => pure (.error cause)
    | .ok running =>
      modify fun manager => { manager with active := some running, state := .listening kind }
      note .info s!"Listening for {(← get).config.startRecording} via {kind.name}"
      pure (.ok ())

def failedMessage (kind : ProviderKind) (cause : HotkeyError) : String :=
  s!"{kind.name} hotkey provider failed to start: {cause.message}"

def fail (cause : HotkeyError) : Managed World P κ (Except HotkeyError Unit) := do
  modify fun manager => { manager with state := .failed cause.message }
  note .error s!"No hotkey provider could be started: {cause.message}"
  pure (.error cause)

def fallback? (manager : HotkeyManager P κ) (primary : ProviderKind) : Option ProviderKind :=
  if manager.config.provider = .auto then fallbackFor primary manager.environment else none

/-- Choose a provider and start it; if that fails and another one may be tried and reports that it
can work, try that one once. -/
def start (providers : Providers World P) : Managed World P κ (Except HotkeyError Unit) := do
  let manager ← get
  if manager.active.isSome then return .error .alreadyStarted
  let primary ← select providers manager.config manager.environment
  match ← attempt providers primary with
  | .ok () => pure (.ok ())
  | .error cause =>
    note .warn (failedMessage primary cause)
    match manager.fallback? primary with
    | none => fail cause
    | some second =>
      if ← providers.isSupported (← providers.create second) then
        note .info s!"Falling back to {second.name} hotkey provider"
        modify fun manager => { manager with state := .fallbackAttempted primary second }
        match ← attempt providers second with
        | .ok () => pure (.ok ())
        | .error cause =>
          note .warn (failedMessage second cause)
          fail cause
      else
        note .debug s!"Not falling back: {(HotkeyError.unsupported second.name).message}"
        fail cause

def stop (providers : Providers World P) : Managed World P κ Unit := do
  match (← get).active with
  | none => pure ()
  | some provider =>
    providers.stop provider
    modify fun manager => { manager with active := none, state := .stopped }
    note .info "Hotkey listener stopped"

def reload (providers : Providers World P) (config : HotkeyConfig) :
    Managed World P κ (Except HotkeyError Unit) := do
  note .info "Reloading hotkey configuration"
  stop providers
  modify fun manager => { manager with config }
  start providers

def activeName? (providers : Providers World P) (manager : HotkeyManager P κ) : Option String :=
  manager.active.map providers.name

def capturingProvider? (providers : Providers World P) (manager : HotkeyManager P κ) :
    Run World (Option P) := do
  match manager.active with
  | none => pure none
  | some provider =>
    if ← providers.capturesKeys provider then pure (some provider) else pure none

def canCapture (providers : Providers World P) (manager : HotkeyManager P κ) : Run World Bool := do
  let native ← capturingProvider? providers manager
  pure (native.isSome || manager.environment.runtime != .flatpak)

def capture (providers : Providers World P) (manager : HotkeyManager P κ) (limit : Duration) :
    Run World (Except HotkeyError String) := do
  match ← capturingProvider? providers manager with
  | some provider => providers.capture provider limit
  | none =>
    if manager.environment.runtime = .flatpak then
      pure (.error (.captureNotSupported
        ((manager.activeName? providers).getD ProviderKind.portal.name)))
    else
      Run.log .debug "Capturing with a temporary evdev provider"
      providers.capture (← providers.create .evdev) limit

end HotkeyManager

end GlobalHotkeys
