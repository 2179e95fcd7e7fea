import GlobalHotkeys.Proofs.Daemon.Relaunch
import GlobalHotkeys.Proofs.Manager.Presses

namespace GlobalHotkeys

variable {World : Type}

namespace Daemon

def pressCalls (daemon : Daemon HotkeyProvider) (id : String) (world : World) :
    List (DaemonCallback × CallbackResult) :=
  (HotkeyManager.fire (witnessed DaemonCallback.call) id .recording daemon.manager { world }).world.calls

def dueCallback (recording : Bool) : DaemonCallback :=
  if recording then .dictationOff else .dictationOn

theorem pressCalls_eq {daemon : Daemon HotkeyProvider} {environment : Environment} {config : HotkeyConfig}
    (suits : Suits daemon.manager environment config) (id : String) (world : World) :
    daemon.pressCalls id world = [(dueCallback daemon.manager.recording, none)] := by
  obtain ⟨-, after⟩ := HotkeyManager.fire_of_registered (witnessed DaemonCallback.call) { world } id
    suits.callbacks
  unfold pressCalls
  rw [after]
  rfl

namespace Course

variable {site : Site World} {course : Course World} {path hotkey provider : Option String}

/-- Whether the recording is on after a hangup. -/
def keptRecording (site : Site World) (course : Course World) : Bool :=
  match course.loading site with
  | .error _ => course.daemon.manager.recording
  | .ok config =>
    sameActions course.daemon.config.hotkey config.hotkey && course.daemon.manager.recording

theorem recording_hangup (settled : course.Settled site path hotkey provider) :
    (course.hangup site).daemon.manager.recording = course.keptRecording site := by
  unfold keptRecording
  cases loaded : course.loading site with
  | error cause => rw [hangup_of_error loaded]
  | ok config =>
      obtain ⟨idle, restarts, after⟩ := exists_restart settled.suits loaded
      rw [after]
      exact (restarts.suits.start site.machine.providers _).2.trans restarts.recording

/-- The first press after a hangup stops the recording only if it was on and the hangup has kept it. -/
theorem press_after_hangup (site : Site World) {path hotkey provider : Option String} {world : World}
    {launched : Course World} (ok : site.launch? path hotkey provider world = .ok launched)
    (steps : List (Step World)) (id : String) (now : World) :
    let course := launched.run site steps
    (course.hangup site).daemon.pressCalls id now = [(dueCallback (course.keptRecording site), none)] := by
  intro course
  obtain ⟨config, overrides, settings, rfl⟩ := launch?_eq_ok_iff.mp ok
  have settled : course.Settled site path hotkey provider := (settled_launching settings).run steps
  rw [pressCalls_eq settled.hangup.suits, recording_hangup settled]

def actionWhileRecording : List (Step FileTree) :=
  -- The keys of ctrl+alt+r, and then a file that names an action.
  [.reading 0 (.event (.press 29)), .reading 0 (.event (.press 56)), .reading 0 (.event (.press 19)),
    .elapse fun _ => settingsFile "[hotkey.actions]\ncancel = \"ctrl+alt+c\"\n"]

theorem desk_records_anew :
    ∃ launched, (desk "internal").launch? (some "/hotkeys") none none (settingsFile "") = .ok launched ∧
      let course := launched.run (desk "internal") actionWhileRecording
      course.daemon.manager.recording = true ∧
      (course.hangup (desk "internal")).daemon.pressCalls "ctrl+alt+r" course.world =
        [(.dictationOn, none)] := by
  have known : ((desk "internal").launch? (some "/hotkeys") none none (settingsFile "")).toOption.map
      (fun launched =>
        let course := launched.run (desk "internal") actionWhileRecording
        (course.daemon.manager.recording, course.keptRecording (desk "internal"))) =
        some (true, false) := by
    decide +kernel
  obtain ⟨launched, ok, seen⟩ := exists_launched known
  obtain ⟨recording, kept⟩ := Prod.mk.inj seen
  have calls := press_after_hangup (desk "internal") ok actionWhileRecording "ctrl+alt+r"
    (launched.run (desk "internal") actionWhileRecording).world
  dsimp only at calls
  rw [kept] at calls
  exact ⟨launched, ok, recording, calls⟩

/-- A hangup while recording may begin another recording, though none has ended. -/
theorem other_actions_forget_recording :
    ¬ ∀ (site : Site FileTree) (path hotkey provider : Option String) (world : FileTree)
      (launched : Course FileTree), site.launch? path hotkey provider world = .ok launched →
      ∀ (steps : List (Step FileTree)) (id : String) (now : FileTree),
        let course := launched.run site steps
        (course.hangup site).daemon.pressCalls id now =
          [(dueCallback course.daemon.manager.recording, none)] := by
  intro preserved
  have known : ((desk "internal").launch? (some "/hotkeys") none none (settingsFile "")).toOption.map
      (fun launched =>
        let course := launched.run (desk "internal") actionWhileRecording
        (course.daemon.manager.recording,
          (course.hangup (desk "internal")).daemon.pressCalls "ctrl+alt+r" course.world)) =
        some (true, [(.dictationOn, none)]) := by
    decide +kernel
  obtain ⟨launched, ok, seen⟩ := exists_launched known
  obtain ⟨recording, calls⟩ := Prod.mk.inj seen
  have stopped := preserved (desk "internal") _ _ _ _ launched ok actionWhileRecording "ctrl+alt+r"
    (launched.run (desk "internal") actionWhileRecording).world
  dsimp only at stopped
  rw [recording, calls] at stopped
  cases stopped

end Course

end Daemon

end GlobalHotkeys
