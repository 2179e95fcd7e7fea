import GlobalHotkeys.Proofs.Config.Layers
import GlobalHotkeys.Proofs.Daemon.Relaunch

namespace GlobalHotkeys

variable {World : Type}

namespace Daemon

variable {site : Site World} {path hotkey provider : Option String}

theorem startConfig_fails_iff {vars : Variables} {files : FileTree} :
    (∃ cause, startConfig vars files path hotkey provider = .error cause) ↔
      Unloadable vars files path ∨
        ∃ text, provider = some text ∧ ProviderChoice.named? text = none := by
  rw [← loadConfig_fails_iff, ← Overrides.read_fails_iff hotkey]
  unfold startConfig
  cases loadConfig vars files path with
  | error cause => simp [bind, Except.bind]
  | ok config =>
      cases Overrides.read hotkey provider <;> simp [bind, Except.bind, pure, Except.pure]

theorem fromLayers_startConfig {vars : Variables} {files : FileTree} {config : Config}
    {overrides : Overrides}
    (settings : startConfig vars files path hotkey provider = .ok (config, overrides)) :
    FromLayers (.written hotkey provider) vars files path config := by
  obtain ⟨read, loaded⟩ := Course.startConfig_eq_ok_iff.mp settings
  rw [(Overrides.read_eq_ok_iff.mp read).2] at loaded
  exact (Overrides.load_eq_ok_iff.mp loaded).2

theorem launch?_fails_iff {world : World} :
    (∃ cause, site.launch? path hotkey provider world = .error cause) ↔
      Unloadable site.vars (site.files world).value path ∨
        ∃ text, provider = some text ∧ ProviderChoice.named? text = none := by
  rw [← startConfig_fails_iff]
  unfold Site.launch?
  cases startConfig site.vars (site.files world).value path hotkey provider <;>
    simp [bind, Except.bind, pure, Except.pure]

namespace Course

variable {course : Course World}

theorem Settled.overrides (settled : course.Settled site path hotkey provider) :
    course.daemon.overrides = .written hotkey provider :=
  (Overrides.read_eq_ok_iff.mp (startConfig_eq_ok_iff.mp settled.settings).1).2

theorem Settled.loading_eq_ok_iff (settled : course.Settled site path hotkey provider) {config : Config} :
    course.loading site = .ok config ↔
      startConfig site.vars (site.files course.world).value path hotkey provider =
        .ok (config, .written hotkey provider) := by
  obtain ⟨read, -⟩ := startConfig_eq_ok_iff.mp settled.settings
  rw [startConfig_eq_ok_iff, ← settled.overrides, loading, settled.configPath]
  exact (and_iff_right read).symm

theorem Settled.loading_fails_iff (settled : course.Settled site path hotkey provider) :
    (∃ cause, course.loading site = .error cause) ↔
      Unloadable site.vars (site.files course.world).value path := by
  rw [loading, settled.configPath]
  exact Overrides.load_fails_iff

theorem Settled.config_hangup (settled : course.Settled site path hotkey provider) {config : Config}
    (loaded : course.loading site = .ok config) : (course.hangup site).daemon.config = config := by
  obtain ⟨idle, -, after⟩ := exists_restart settled.suits loaded
  rw [after]

/-- The program launches its daemon with the settings of the layers, and after any run a hangup loads them
from the same layers, so it takes up what a launch on the files of that moment would begin with. Loading
fails for a file that is there and gives no settings, and for a variable that names no provider, whatever
the command line says; a launch fails so too, or for a provider of the command line that is none, and a
hangup that fails changes nothing of the daemon. -/
theorem settings_from_layers (site : Site World) (line : CommandLine) (world : World) :
    let started := site.launch? line.config line.hotkey line.provider world
    let overrides : Overrides := .written line.hotkey line.provider
    (∀ files, (∃ cause, loadConfig site.vars files line.config = .error cause) ↔
      Unloadable site.vars files line.config) ∧
    (line.command.getD .daemon = .daemon →
      (Program.perform site.host line world).value =
        match started with
        | .ok launched => .running launched.daemon
        | .error cause => .ended (.failure (Program.explained (.config cause)))) ∧
    ((∃ cause, started = .error cause) ↔
      Unloadable site.vars (site.files world).value line.config ∨
        ∃ text, line.provider = some text ∧ ProviderChoice.named? text = none) ∧
    ∀ launched, started = .ok launched →
      FromLayers overrides site.vars (site.files world).value line.config launched.daemon.config ∧
      ∀ steps : List (Step World),
        let course := launched.run site steps
        let files := (site.files course.world).value
        ((∃ cause, course.loading site = .error cause) ↔ Unloadable site.vars files line.config) ∧
        (∀ cause, course.loading site = .error cause → (course.hangup site).daemon = course.daemon) ∧
        ∀ config, course.loading site = .ok config →
          (course.hangup site).daemon.config = config ∧
          FromLayers overrides site.vars files line.config config ∧
          startConfig site.vars files line.config line.hotkey line.provider = .ok (config, overrides) := by
  intro started overrides
  refine ⟨fun files => loadConfig_fails_iff, perform_daemon site line world, launch?_fails_iff, ?_⟩
  intro launched ok
  obtain ⟨config, read, settings, rfl⟩ := launch?_eq_ok_iff.mp ok
  have settled (steps : List (Step World)) := (settled_launching settings).run steps
  refine ⟨?_, fun steps => ⟨(settled steps).loading_fails_iff, fun cause failed => ?_, ?_⟩⟩
  · rw [daemon_launching]
    exact fromLayers_startConfig settings
  · rw [hangup_of_error failed]
  · intro config loaded
    have sameSettings := (settled steps).loading_eq_ok_iff.mp loaded
    exact ⟨(settled steps).config_hangup loaded, fromLayers_startConfig sameSettings, sameSettings⟩

/-- A blank hotkey of the environment gives way to the file, and the file's provider to the environment;
where the file names neither any more, the usual hotkey is back. -/
theorem desk_settings :
    let site : Site FileTree :=
      { desk "internal" with
        vars := fun name => [("DICTKEY_HOTKEY", " "), ("DICTKEY_PROVIDER", "Evdev")].lookup name }
    let line : CommandLine := { config := some "/hotkeys" }
    let file := settingsFile "[hotkey]\nstart_recording = \"ctrl+alt+d\"\nprovider = \"dbus\"\n"
    ∃ launched, site.launch? line.config line.hotkey line.provider file = .ok launched ∧
      launched.daemon.config = { hotkey := { startRecording := "ctrl+alt+d", provider := .evdev } } ∧
      let course := launched.run site [.elapse fun _ => settingsFile "[hotkey]\n"]
      (course.hangup site).daemon.config = { hotkey := { provider := .evdev } } ∧
      startConfig site.vars (settingsFile "[hotkey]\n") line.config line.hotkey line.provider =
        .ok ({ hotkey := { provider := .evdev } }, {}) := by
  intro site line file
  have known : (site.launch? line.config line.hotkey line.provider file).toOption.map (fun launched =>
      let course := launched.run site [.elapse fun _ => settingsFile "[hotkey]\n"]
      (launched.daemon.config, course.loading site)) =
      some ({ hotkey := { startRecording := "ctrl+alt+d", provider := .evdev } },
        .ok { hotkey := { provider := .evdev } }) := by
    decide +kernel
  obtain ⟨launched, ok, seen⟩ := exists_launched known
  obtain ⟨config, loaded⟩ := Prod.mk.inj seen
  obtain ⟨-, -, -, after⟩ := settings_from_layers site line file
  obtain ⟨-, -, loads⟩ := (after launched ok).2 [.elapse fun _ => settingsFile "[hotkey]\n"]
  obtain ⟨taken, -, afresh⟩ := loads _ loaded
  exact ⟨launched, ok, config, taken, afresh⟩

end Course

end Daemon

end GlobalHotkeys
