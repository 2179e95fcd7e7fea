import GlobalHotkeys.Program.Basic
import GlobalHotkeys.Proofs.Daemon.Reload
import GlobalHotkeys.Proofs.Manager.Events

namespace GlobalHotkeys

variable {World κ : Type}

theorem HotkeyManager.world_stop (machine : Machine World) (manager : HotkeyManager HotkeyProvider κ)
    (world : World) : (stop machine.providers manager world).world = world := by
  obtain ⟨config, environment, active, state, recording, callbacks, actions⟩ := manager
  cases active with
  | none => rfl
  | some provider => rfl

namespace Daemon

structure Site (World : Type) where
  machine : Machine World
  vars : Variables
  files : Run World FileTree
  setFiles : FileTree → Run World Unit
  processId : Nat

def Site.host (site : Site World) : Host World HotkeyProvider where
  providers := site.machine.providers
  vars := pure site.vars
  files := site.files
  setFiles := site.setFiles
  processId := site.processId
  inInputGroup := site.machine.inInputGroup

def Site.environment (site : Site World) : Environment :=
  Environment.detect site.vars

inductive Step (World : Type) where
  | hangup
  | reading (index : Nat) (reading : Reading)
  | delivery (delivery : Delivery)
  | elapse (change : World → World)

structure Course (World : Type) where
  daemon : Daemon HotkeyProvider
  world : World
  files : FileTree
  began : World

def Site.launching (site : Site World) (config : Config) (path : Option String) (overrides : Overrides)
    (world : World) : Course World :=
  let found := site.files world
  let launched := launch site.host config path overrides found.world
  { daemon := launched.value
    world := launched.world
    files := found.value
    began := (writePidFile site.host found.world).world }

def Site.launch? (site : Site World) (path hotkey provider : Option String) (world : World) :
    Except ConfigError (Course World) := do
  let (config, overrides) ← startConfig site.vars (site.files world).value path hotkey provider
  pure (site.launching config path overrides world)

theorem perform_daemon (site : Site World) (line : CommandLine) (world : World)
    (asked : line.command.getD .daemon = .daemon) :
    (Program.perform site.host line world).value =
      match site.launch? line.config line.hotkey line.provider world with
      | .ok launched => .running launched.daemon
      | .error cause => .ended (.failure (Program.explained (.config cause))) := by
  have logged (lines : List LogLine) (now : World) : (Run.logAll lines now).world = now := rfl
  unfold Program.perform Site.launch?
  simp only [Site.host, Run.bind_apply, Run.pure_apply, logged]
  cases startConfig site.vars (site.files world).value line.config line.hotkey line.provider with
  | error cause => rfl
  | ok settings =>
      simp only [asked]
      rfl

namespace Course

variable (site : Site World)

def loading (course : Course World) : Except ConfigError Config :=
  course.daemon.overrides.load site.vars (site.files course.world).value course.daemon.configPath

def hangup (course : Course World) : Course World :=
  let after := reload site.host course.daemon course.world
  let found := site.files course.world
  match course.loading site with
  | .error _ => { course with daemon := after.value.2, world := after.world }
  | .ok _ =>
    { daemon := after.value.2, world := after.world, files := found.value, began := found.world }

def inManager (course : Course World) (step : Managed World HotkeyProvider DaemonCallback Unit) :
    Course World :=
  let after := Daemon.inManager step course.daemon course.world
  { course with daemon := after.value.2, world := after.world }

def step (course : Course World) : Step World → Course World
  | .hangup => course.hangup site
  | .reading index reading => course.inManager (HotkeyManager.read DaemonCallback.call index reading)
  | .delivery delivery => course.inManager (HotkeyManager.hear DaemonCallback.call delivery)
  | .elapse change => { course with world := change course.world }

def run (course : Course World) (steps : List (Step World)) : Course World :=
  steps.foldl (step site) course

variable {site} {course : Course World}

theorem hangup_of_error {cause : ConfigError} (failed : course.loading site = .error cause) :
    course.hangup site = { course with world := (site.files course.world).world } := by
  have left : Leaves (reload site.host) course.daemon course.world course.daemon
      (site.files course.world).world :=
    reload_of_error rfl failed
  obtain ⟨daemon, world⟩ := left
  unfold hangup
  simp only [failed, daemon, world]

theorem hangup_of_ok {config : Config} {daemon : Daemon HotkeyProvider} {later : World}
    (loaded : course.loading site = .ok config)
    (left : Leaves (reload site.host) course.daemon course.world daemon later) :
    let found := site.files course.world
    course.hangup site = { daemon, world := later, files := found.value, began := found.world } := by
  obtain ⟨after, world⟩ := left
  unfold hangup
  simp only [loaded, after, world]

/-- A hangup that loads these settings starts this manager: the old one, if they name the same actions as
before, else one that knows of no recording. -/
structure Restarts (site : Site World) (course : Course World) (config : Config)
    (idle : HotkeyManager HotkeyProvider DaemonCallback) : Prop where
  inactive : idle.active = none
  suits : Suits idle site.environment config.hotkey
  recording : idle.recording =
    (sameActions course.daemon.config.hotkey config.hotkey && course.daemon.manager.recording)

theorem exists_restart {config : Config}
    (suits : Suits course.daemon.manager site.environment course.daemon.config.hotkey)
    (loaded : course.loading site = .ok config) :
    ∃ idle, course.Restarts site config idle ∧
      let found := site.files course.world
      let starting := HotkeyManager.start site.machine.providers idle found.world
      course.hangup site =
        { daemon := { course.daemon with config, manager := starting.value.2 }
          world := starting.world
          files := found.value
          began := found.world } := by
  let found := site.files course.world
  let stopping := HotkeyManager.stop site.machine.providers course.daemon.manager found.world
  let starting (idle : HotkeyManager HotkeyProvider DaemonCallback) :=
    HotkeyManager.start site.machine.providers idle stopping.world
  have stays : stopping.world = found.world := HotkeyManager.world_stop _ _ _
  -- The two ways to take up settings differ in the manager only, so it is found first.
  suffices ∃ idle, course.Restarts site config idle ∧
      Leaves (reload site.host) course.daemon course.world
        { course.daemon with config, manager := (starting idle).value.2 } (starting idle).world by
    obtain ⟨idle, restarts, left⟩ := this
    refine ⟨idle, restarts, (hangup_of_ok loaded left).trans ?_⟩
    simp only [starting, stays, found]
  cases same : sameActions course.daemon.config.hotkey config.hotkey with
  | true =>
      obtain ⟨inactive, suited, recording⟩ := suits.stop site.machine.providers found.world
      refine ⟨{ stopping.value.2 with config := config.hotkey }, ⟨inactive, suited.withConfig same, ?_⟩,
        reload_of_same rfl loaded same⟩
      rw [same]
      exact recording
  | false =>
      refine ⟨managerFor site.environment config.hotkey, ⟨rfl, suits_managerFor _ _, ?_⟩,
        reload_of_other rfl loaded (by rw [same]; nofun)⟩
      rw [same]
      rfl

def Follows (course after : Course World) : Prop :=
  ∃ heard recording world, HotkeyProvider.KeepsTable heard ∧
    after =
      { course with
        daemon :=
          { course.daemon with
            manager :=
              { course.daemon.manager with
                active := course.daemon.manager.active.map heard, recording } }
        world }

theorem follows_inManager {step : Managed World HotkeyProvider DaemonCallback Unit}
    {heard : HotkeyProvider → HotkeyProvider}
    (keeps : HotkeyProvider.KeepsTable heard)
    (steps : ∃ recording, (step course.daemon.manager course.world).value.2 =
      { course.daemon.manager with active := course.daemon.manager.active.map heard, recording }) :
    course.Follows (course.inManager step) := by
  obtain ⟨recording, after⟩ := steps
  refine ⟨heard, recording, (step course.daemon.manager course.world).world, keeps, ?_⟩
  rw [← after]
  rfl

theorem run_induction {Holds : Course World → Prop}
    (hangup : ∀ course, Holds course → Holds (course.hangup site))
    (follows : ∀ course after, course.Follows after → Holds course → Holds after)
    (launched : Holds course) (steps : List (Step World)) : Holds (course.run site steps) := by
  induction steps generalizing course with
  | nil => exact launched
  | cons step rest ih =>
      refine ih ?_
      -- All but a hangup leaves a course that follows.
      cases step with
      | hangup => exact hangup course launched
      | reading index reading =>
          exact follows course _ (follows_inManager (HotkeyProvider.keepsTable_afterReading index reading)
            (HotkeyManager.exists_read ..)) launched
      | delivery delivery =>
          exact follows course _ (follows_inManager (HotkeyProvider.keepsTable_afterDelivery delivery)
            (HotkeyManager.exists_hear ..)) launched
      | elapse change =>
          refine follows course _ ⟨id, course.daemon.manager.recording, change course.world,
            fun provider => ⟨rfl, rfl⟩, ?_⟩ launched
          rw [Option.map_id_fun, id]
          rfl

/-- The settings are what the command line makes of the files of the last load that succeeded, and the
manager suits them. -/
structure Settled (site : Site World) (path hotkey provider : Option String) (course : Course World) :
    Prop where
  settings : startConfig site.vars course.files path hotkey provider =
    .ok (course.daemon.config, course.daemon.overrides)
  configPath : course.daemon.configPath = path
  suits : Suits course.daemon.manager site.environment course.daemon.config.hotkey

variable {path hotkey provider : Option String}

theorem startConfig_eq_ok_iff {vars : Variables} {files : FileTree} {config : Config}
    {overrides : Overrides} :
    startConfig vars files path hotkey provider = .ok (config, overrides) ↔
      Overrides.read hotkey provider = .ok overrides ∧ overrides.load vars files path = .ok config := by
  unfold startConfig Overrides.load
  cases loadConfig vars files path with
  | error cause => simp [bind, Except.bind]
  | ok found =>
      cases Overrides.read hotkey provider with
      | error cause => simp [bind, Except.bind]
      | ok read =>
          simp only [bind, Except.bind, pure, Except.pure, Except.ok.injEq, Prod.mk.injEq]
          constructor
          · rintro ⟨rfl, rfl⟩
            exact ⟨rfl, rfl⟩
          · rintro ⟨rfl, rfl⟩
            exact ⟨rfl, rfl⟩

theorem launch?_eq_ok_iff {world : World} {launched : Course World} :
    site.launch? path hotkey provider world = .ok launched ↔ ∃ config overrides,
      startConfig site.vars (site.files world).value path hotkey provider = .ok (config, overrides) ∧
      launched = site.launching config path overrides world := by
  unfold Site.launch?
  cases startConfig site.vars (site.files world).value path hotkey provider with
  | error cause => simp [bind, Except.bind]
  | ok settings => simp [bind, Except.bind, pure, Except.pure, Prod.ext_iff, eq_comm]

theorem daemon_launching (site : Site World) (config : Config) (path : Option String)
    (overrides : Overrides) (world : World) :
    let launched := site.launching config path overrides world
    launched.daemon =
      { config, configPath := path, overrides
        manager := (HotkeyManager.start site.machine.providers
          (managerFor site.environment config.hotkey) launched.began).value.2
        pidFile := (writePidFile site.host (site.files world).world).value } :=
  value_launch rfl config path overrides (site.files world).world

theorem settled_launching {world : World} {config : Config} {overrides : Overrides}
    (settings : startConfig site.vars (site.files world).value path hotkey provider =
      .ok (config, overrides)) :
    (site.launching config path overrides world).Settled site path hotkey provider := by
  have launched := daemon_launching site config path overrides world
  refine ⟨?_, ?_, ?_⟩
  · rw [launched]
    exact settings
  · rw [launched]
  · rw [launched]
    exact ((suits_managerFor site.environment config.hotkey).start _ _).1

theorem Settled.hangup (settled : course.Settled site path hotkey provider) :
    (course.hangup site).Settled site path hotkey provider := by
  cases loaded : course.loading site with
  | error cause =>
      rw [hangup_of_error loaded]
      exact ⟨settled.settings, settled.configPath, settled.suits⟩
  | ok config =>
      obtain ⟨idle, restarts, after⟩ := exists_restart settled.suits loaded
      obtain ⟨read, -⟩ := startConfig_eq_ok_iff.mp settled.settings
      rw [after]
      refine ⟨startConfig_eq_ok_iff.mpr ⟨read, ?_⟩, settled.configPath, (restarts.suits.start _ _).1⟩
      rw [← settled.configPath]
      exact loaded

theorem Settled.follows {after : Course World} (follows : course.Follows after)
    (settled : course.Settled site path hotkey provider) : after.Settled site path hotkey provider := by
  obtain ⟨heard, recording, world, -, rfl⟩ := follows
  exact ⟨settled.settings, settled.configPath, settled.suits.doing ..⟩

theorem Settled.run (settled : course.Settled site path hotkey provider) (steps : List (Step World)) :
    (course.run site steps).Settled site path hotkey provider :=
  run_induction (fun _ => .hangup) (fun _ _ => .follows) settled steps

end Course

end Daemon

end GlobalHotkeys
