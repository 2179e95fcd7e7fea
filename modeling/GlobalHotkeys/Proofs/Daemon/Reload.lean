import GlobalHotkeys.Daemon.Basic
import GlobalHotkeys.Proofs.Manager.Operations
import GlobalHotkeys.Proofs.NameMap

namespace GlobalHotkeys

variable {World P α β : Type}

namespace Daemon

def Leaves (step : DaemonSteps World P α) (daemon : Daemon P) (world : World) (after : Daemon P)
    (later : World) : Prop :=
  (step daemon world).value.2 = after ∧ (step daemon world).world = later

namespace Leaves

variable {daemon after : Daemon P} {world later : World}

theorem note {level : LogLevel} {message : String} {next : Unit → DaemonSteps World P β}
    (goes : Leaves (next ()) daemon world after later) :
    Leaves (Daemon.note level message >>= next) daemon world after later :=
  goes

theorem get {next : Daemon P → DaemonSteps World P β}
    (goes : Leaves (next daemon) daemon world after later) :
    Leaves (MonadState.get >>= next) daemon world after later :=
  goes

theorem lift {step : Run World α} {next : α → DaemonSteps World P β}
    (goes : Leaves (next (step world).value) daemon (step world).world after later) :
    Leaves (StateT.lift step >>= next) daemon world after later :=
  goes

theorem modified {update : Daemon P → Daemon P} {next : PUnit → DaemonSteps World P β}
    (goes : Leaves (next ⟨⟩) (update daemon) world after later) :
    Leaves (modify update >>= next) daemon world after later :=
  goes

theorem inManager {step : Managed World P DaemonCallback α} {next : α → DaemonSteps World P β}
    (goes : Leaves (next (step daemon.manager world).value.1)
      { daemon with manager := (step daemon.manager world).value.2 } (step daemon.manager world).world
      after later) :
    Leaves (Daemon.inManager step >>= next) daemon world after later :=
  goes

theorem bind {first : DaemonSteps World P α} {next : α → DaemonSteps World P β} {between : Daemon P}
    {moment : World} (begun : Leaves first daemon world between moment)
    (goes : Leaves (next (first daemon world).value.1) between moment after later) :
    Leaves (first >>= next) daemon world after later := by
  obtain ⟨rfl, rfl⟩ := begun
  exact goes

theorem answered (answer : Except HotkeyError Unit) (level : LogLevel) (message : HotkeyError → String)
    (daemon : Daemon P) (world : World) :
    Leaves (match answer with
      | .error cause => Daemon.note level (message cause)
      | _ => pure ()) daemon world daemon world := by
  cases answer with
  | ok _ => exact ⟨rfl, rfl⟩
  | error cause => exact ⟨rfl, rfl⟩

end Leaves

section Fixed

variable {host : Host World P} {vars : Variables} (fixed : host.vars = pure vars)

include fixed

theorem buildManager_eq (config : HotkeyConfig) :
    buildManager host config = pure (managerFor (Environment.detect vars) config) := by
  unfold buildManager
  rw [fixed, pure_bind]

theorem value_launch (config : Config) (path : Option String) (overrides : Overrides) (world : World) :
    let written := writePidFile host world
    let starting := HotkeyManager.start host.providers
      (managerFor (Environment.detect vars) config.hotkey) written.world
    (launch host config path overrides world).value =
      { config, configPath := path, overrides, manager := starting.value.2, pidFile := written.value } := by
  intro written starting
  have logged (level : LogLevel) (message : String) :
      (Run.log level message world).world = world := rfl
  unfold launch
  rw [buildManager_eq fixed]
  simp only [Run.bind_apply, Run.pure_apply, logged]
  cases (HotkeyManager.start host.providers (managerFor (Environment.detect vars) config.hotkey)
    (writePidFile host world).world).value.1 with
  | ok _ => rfl
  | error cause => rfl

variable {daemon : Daemon P} {world : World}

theorem reload_of_error {cause : ConfigError}
    (failed : daemon.overrides.load vars (host.files world).value daemon.configPath = .error cause) :
    Leaves (reload host) daemon world daemon (host.files world).world := by
  unfold reload
  rw [fixed]
  refine .note (.get (.lift (.lift (.lift ?_))))
  dsimp only [monadLift_self, Run.pure_apply]
  rw [failed]
  exact ⟨rfl, rfl⟩

theorem reload_of_same {config : Config}
    (loaded : daemon.overrides.load vars (host.files world).value daemon.configPath = .ok config)
    (same : sameActions daemon.config.hotkey config.hotkey = true) :
    let reloading := HotkeyManager.reload host.providers config.hotkey daemon.manager
      (host.files world).world
    Leaves (reload host) daemon world { daemon with config, manager := reloading.value.2 }
      reloading.world := by
  intro reloading
  unfold reload
  rw [fixed]
  refine .note (.get (.lift (.lift (.lift ?_))))
  dsimp only [monadLift_self, Run.pure_apply]
  rw [loaded]
  refine .modified ?_
  rw [if_pos same]
  exact .inManager (.answered ..)

theorem leaves_rebuild (config : HotkeyConfig) :
    let stopping := HotkeyManager.stop host.providers daemon.manager world
    let starting := HotkeyManager.start host.providers
      (managerFor (Environment.detect vars) config) stopping.world
    Leaves (rebuild host config) daemon world { daemon with manager := starting.value.2 }
      starting.world := by
  unfold rebuild
  rw [buildManager_eq fixed]
  exact .inManager (.lift (.modified ⟨rfl, rfl⟩))

theorem reload_of_other {config : Config}
    (loaded : daemon.overrides.load vars (host.files world).value daemon.configPath = .ok config)
    (differs : ¬ sameActions daemon.config.hotkey config.hotkey = true) :
    let stopping := HotkeyManager.stop host.providers daemon.manager (host.files world).world
    let starting := HotkeyManager.start host.providers
      (managerFor (Environment.detect vars) config.hotkey) stopping.world
    Leaves (reload host) daemon world { daemon with config, manager := starting.value.2 }
      starting.world := by
  intro stopping starting
  unfold reload
  rw [fixed]
  refine .note (.get (.lift (.lift (.lift ?_))))
  dsimp only [monadLift_self, Run.pure_apply]
  rw [loaded]
  refine .modified ?_
  rw [if_neg differs]
  exact .bind (leaves_rebuild fixed config.hotkey) (.answered ..)

end Fixed

structure Suits (manager : HotkeyManager P DaemonCallback) (environment : Environment)
    (config : HotkeyConfig) : Prop where
  actions : manager.actions = config.actions.mapNames .trigger
  callbacks : manager.callbacks = some { onStart := .dictationOn, onStop := .dictationOff }
  config : manager.config = config
  environment : manager.environment = environment

theorem suits_managerFor (environment : Environment) (config : HotkeyConfig) :
    Suits (managerFor environment config : HotkeyManager P DaemonCallback) environment config :=
  ⟨rfl, rfl, rfl, rfl⟩

namespace Suits

variable {manager : HotkeyManager P DaemonCallback} {environment : Environment} {config : HotkeyConfig}

theorem doing (suits : Suits manager environment config) (active : Option P) (state : ManagerState)
    (recording : Bool) : Suits { manager with active, state, recording } environment config :=
  ⟨suits.actions, suits.callbacks, suits.config, suits.environment⟩

theorem start (suits : Suits manager environment config) (providers : Providers World P)
    (world : World) :
    let started := (HotkeyManager.start providers manager world).value.2
    Suits started environment config ∧ started.recording = manager.recording := by
  obtain ⟨calls, -, starts⟩ := HotkeyManager.converses_starting providers manager world
  obtain ⟨active, state, after⟩ := starts.eq_with
  dsimp only
  rw [after]
  exact ⟨suits.doing active state manager.recording, rfl⟩

theorem stop (suits : Suits manager environment config) (providers : Providers World P)
    (world : World) :
    let stopped := (HotkeyManager.stop providers manager world).value.2
    stopped.active = none ∧ Suits stopped environment config ∧ stopped.recording = manager.recording := by
  obtain ⟨calls, -, stops⟩ := HotkeyManager.converses_stop providers manager world
  obtain ⟨state, after⟩ := stops.eq_with
  dsimp only
  rw [after]
  exact ⟨rfl, suits.doing none state manager.recording, rfl⟩

theorem withConfig {next : HotkeyConfig} (suits : Suits manager environment config)
    (same : sameActions config next = true) :
    Suits { manager with config := next } environment next := by
  have names : config.actions.names = next.actions.names := by simpa [sameActions] using same
  exact ⟨suits.actions.trans (NameMap.mapNames_congr names _), suits.callbacks, rfl, suits.environment⟩

end Suits

end Daemon

end GlobalHotkeys
