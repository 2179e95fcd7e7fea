import GlobalHotkeys.Proofs.Daemon.Course
import GlobalHotkeys.Proofs.Manager.Lockstep

/-!
# Reloads and fresh launches

However often a daemon is told to load its settings again, and whatever it finds in the file then, it is as
one that is launched afresh on the files of its last load that succeeded. Neither the way in which it took
the settings up nor the loads that failed can be told from it.
-/

namespace GlobalHotkeys

variable {World Other κ : Type}

namespace HotkeyManager

def bound? (manager : HotkeyManager HotkeyProvider κ) :
    Option (ProviderKind × List (String × Binding)) :=
  manager.active.map fun provider => (provider.kind, provider.bindings)

theorem Matches.bound? {manager other : HotkeyManager HotkeyProvider κ}
    (matched : manager.Matches HotkeyProvider.Like other) : manager.bound? = other.bound? := by
  have active := matched.active
  unfold HotkeyManager.bound?
  generalize manager.active = provider at active ⊢
  generalize other.active = another at active ⊢
  cases active with
  | none => rfl
  | some like =>
      obtain ⟨kind, bindings⟩ := like.bound
      rw [Option.map_some, Option.map_some, kind, bindings]

theorem bound?_mapped (manager : HotkeyManager HotkeyProvider κ) (recording : Bool)
    {heard : HotkeyProvider → HotkeyProvider} (keeps : HotkeyProvider.KeepsTable heard) :
    HotkeyManager.bound? { manager with active := manager.active.map heard, recording } =
      manager.bound? := by
  unfold HotkeyManager.bound?
  rw [Option.map_map]
  congr 1
  funext provider
  exact Prod.ext (keeps provider).1 (keeps provider).2

end HotkeyManager

namespace Daemon

section Starts

variable {first second : HotkeyManager HotkeyProvider DaemonCallback} {environment : Environment}
  {config : HotkeyConfig}

theorem Suits.matches (suits : Suits first environment config) (suitsToo : Suits second environment config)
    (inactive : first.active = none) (inactiveToo : second.active = none)
    {like : HotkeyProvider → HotkeyProvider → Prop} : first.Matches like second where
  config := suits.config.trans suitsToo.config.symm
  environment := suits.environment.trans suitsToo.environment.symm
  actions := congrArg NameMap.names (suits.actions.trans suitsToo.actions.symm)
  active := by
    rw [inactive, inactiveToo]
    exact .none

theorem Suits.start_eq {machine : Machine World} {another : Machine Other} {same : World → Other → Prop}
    (alike : machine.Alike another same) (suits : Suits first environment config)
    (suitsToo : Suits second environment config) (inactive : first.active = none)
    (inactiveToo : second.active = none) {world : World} {other : Other} (equal : same world other) :
    let started := (HotkeyManager.start machine.providers first world).value.2
    let startedToo := (HotkeyManager.start another.providers second other).value.2
    started.state = startedToo.state ∧ started.bound? = startedToo.bound? := by
  obtain ⟨⟨-, matched, state⟩, -⟩ :=
    HotkeyManager.lockstep_start alike.providers inactive
      (suits.matches suitsToo inactive inactiveToo) world other equal
  exact ⟨state, matched.bound?⟩

end Starts

structure Resembles (daemon fresh : Daemon HotkeyProvider) : Prop where
  config : daemon.config = fresh.config
  overrides : daemon.overrides = fresh.overrides
  settings : daemon.manager.config = fresh.manager.config
  callbacks : daemon.manager.callbacks = fresh.manager.callbacks
  actions : daemon.manager.actions = fresh.manager.actions
  state : daemon.manager.state = fresh.manager.state
  bound : daemon.manager.bound? = fresh.manager.bound?

namespace Course

variable {site : Site World} {course : Course World} {path hotkey provider : Option String}

/-- The hotkeys are as a fresh manager for the settings would have started them. -/
def Started (site : Site World) (course : Course World) : Prop :=
  let fresh := (HotkeyManager.start site.machine.providers
    (managerFor site.environment course.daemon.config.hotkey) course.began).value.2
  course.daemon.manager.state = fresh.state ∧ course.daemon.manager.bound? = fresh.bound?

theorem started_launching (site : Site World) (config : Config) (overrides : Overrides) (world : World) :
    (site.launching config path overrides world).Started site := by
  unfold Started
  rw [daemon_launching]
  exact ⟨rfl, rfl⟩

theorem Started.hangup (settled : course.Settled site path hotkey provider)
    (started : course.Started site) : (course.hangup site).Started site := by
  cases loaded : course.loading site with
  | error cause =>
      rw [hangup_of_error loaded]
      exact started
  | ok config =>
      obtain ⟨idle, restarts, after⟩ := exists_restart settled.suits loaded
      rw [after]
      exact restarts.suits.start_eq (.refl site.machine) (suits_managerFor _ _) restarts.inactive rfl rfl

theorem Started.follows {after : Course World} (follows : course.Follows after)
    (started : course.Started site) : after.Started site := by
  obtain ⟨heard, recording, world, keeps, rfl⟩ := follows
  exact ⟨started.1, (HotkeyManager.bound?_mapped _ recording keeps).trans started.2⟩

theorem Started.run (settled : course.Settled site path hotkey provider) (started : course.Started site)
    (steps : List (Step World)) : (course.run site steps).Started site := by
  let Holds (course : Course World) := course.Settled site path hotkey provider ∧ course.Started site
  have holds : Holds (course.run site steps) :=
    run_induction (fun _ holds => ⟨holds.1.hangup, .hangup holds.1 holds.2⟩)
      (fun _ _ follows holds => ⟨.follows follows holds.1, .follows follows holds.2⟩)
      ⟨settled, started⟩ steps
  exact holds.2

theorem Settled.resembles {another : Site Other} {fresh : Course Other} {same : World → Other → Prop}
    (settled : course.Settled site path hotkey provider) (started : course.Started site)
    (settledToo : fresh.Settled another path hotkey provider) (startedToo : fresh.Started another)
    (vars : another.vars = site.vars) (files : fresh.files = course.files)
    (alike : site.machine.Alike another.machine same) (begun : same course.began fresh.began) :
    course.daemon.Resembles fresh.daemon := by
  have environment : another.environment = site.environment := congrArg Environment.detect vars
  have found := settledToo.settings
  rw [vars, files, settled.settings] at found
  obtain ⟨config, overrides⟩ := Prod.mk.inj (Except.ok.inj found)
  have suits := settled.suits
  have suitsToo := settledToo.suits
  unfold Started at started startedToo
  -- Both were started like a fresh manager, so only fresh managers have to be compared.
  rw [environment, ← config] at suitsToo startedToo
  obtain ⟨state, bound⟩ := Suits.start_eq alike (suits_managerFor _ _) (suits_managerFor _ _) rfl rfl begun
  exact
    { config, overrides
      settings := suits.config.trans suitsToo.config.symm
      callbacks := suits.callbacks.trans suitsToo.callbacks.symm
      actions := suits.actions.trans suitsToo.actions.symm
      state := started.1.trans (state.trans startedToo.1.symm)
      bound := started.2.trans (bound.trans startedToo.2.symm) }

/-- After any run a hangup either loads nothing and changes nothing of the daemon, or leaves it, as it was
before, like one launched afresh: wherever the files are those of the last load that succeeded, and the
backends answer alike, the fresh one has the same settings, actions, provider, state and bindings. -/
theorem hangups_relaunch (site : Site World) {path hotkey provider : Option String} {world : World}
    {launched : Course World} (ok : site.launch? path hotkey provider world = .ok launched)
    (steps : List (Step World)) :
    let course := launched.run site steps
    (∀ cause, course.loading site = .error cause → (course.hangup site).daemon = course.daemon) ∧
    ∀ {Other : Type} (another : Site Other) (now : Other) (same : World → Other → Prop),
      another.vars = site.vars → (another.files now).value = course.files →
      site.machine.Alike another.machine same →
      ∃ fresh, another.launch? path hotkey provider now = .ok fresh ∧
        (same course.began fresh.began → course.daemon.Resembles fresh.daemon) := by
  intro course
  obtain ⟨config, overrides, settings, rfl⟩ := launch?_eq_ok_iff.mp ok
  have settled : course.Settled site path hotkey provider := (settled_launching settings).run steps
  have started : course.Started site :=
    .run (settled_launching settings) (started_launching site config overrides world) steps
  refine ⟨fun cause failed => by rw [hangup_of_error failed], ?_⟩
  intro Other another now same vars files alike
  have found : startConfig another.vars (another.files now).value path hotkey provider =
      .ok (course.daemon.config, course.daemon.overrides) := by
    rw [vars, files]
    exact settled.settings
  refine ⟨_, launch?_eq_ok_iff.mpr ⟨_, _, found, rfl⟩, fun begun => ?_⟩
  exact settled.resembles started (settled_launching found) (started_launching ..) vars files alike begun

def desk (keyboard : String) : Site FileTree where
  machine :=
    { bus := .unreachable .noSocket
      keyboards :=
        { present := pure true
          openAll := pure (.ok [{ index := 0, name := keyboard }])
          listen := fun _ => pure [] }
      environment := pure (Environment.detect fun _ => none)
      inInputGroup := true }
  vars _ := none
  files := Run.world
  setFiles files := Run.change fun _ => files
  processId := 7

def settingsFile (text : String) : FileTree :=
  { entries := [(["hotkeys"], .file { content := text.toUTF8 })] }

def edits : List (Step FileTree) :=
  [.elapse fun _ => settingsFile "[hotkey", .hangup,
    .elapse fun _ => settingsFile "[hotkey]\nstart_recording = \"ctrl+alt+d\"\n", .hangup,
    .elapse fun _ => settingsFile "[hotkey.actions]\ncancel = \"ctrl+alt+c\"\n", .hangup,
    .elapse fun _ => settingsFile "[hotkey", .hangup]

theorem desks_alike (keyboard another : String) :
    (desk keyboard).machine.Alike (desk another).machine fun _ _ => True where
  isSupported := fun _ _ _ => ⟨rfl, trivial⟩
  openSession _ := fun _ _ _ => ⟨.error _, trivial⟩
  present := .pure rfl
  openAll := .pure (.ok rfl)
  environment := .pure trivial

theorem exists_launched {answer : Except ConfigError (Course World)} {α : Type} {seen : Course World → α}
    {sight : α} (known : answer.toOption.map seen = some sight) :
    ∃ launched, answer = .ok launched ∧ seen launched = sight := by
  cases answer with
  | error cause => cases known
  | ok launched => exact ⟨launched, rfl, Option.some.inj known⟩

/-- A keyboard that was plugged in since, a file that was broken once and one that is broken now: the
daemon has what a launch on the file between them gives. -/
theorem desk_after_edits :
    ∃ launched fresh,
      (desk "internal").launch? (some "/hotkeys") none none (settingsFile "") = .ok launched ∧
      let course := launched.run (desk "internal") edits
      (course.hangup (desk "internal")).daemon = course.daemon ∧
      (desk "external").launch? (some "/hotkeys") none none course.files = .ok fresh ∧
      course.daemon.Resembles fresh.daemon ∧
      course.daemon.manager.bound? =
        some (.evdev, [("ctrl+alt+r", .recording), ("ctrl+alt+c", .action "cancel")]) := by
  have known : ((desk "internal").launch? (some "/hotkeys") none none (settingsFile "")).toOption.map
      (fun launched =>
        let course := launched.run (desk "internal") edits
        ((course.loading (desk "internal")).isOk, course.daemon.manager.bound?)) =
        some (false, some (.evdev, [("ctrl+alt+r", .recording), ("ctrl+alt+c", .action "cancel")])) := by
    decide +kernel
  obtain ⟨launched, ok, seen⟩ := exists_launched known
  obtain ⟨failed, bound⟩ := Prod.mk.inj seen
  obtain ⟨keeps, relaunched⟩ := hangups_relaunch (desk "internal") ok edits
  obtain ⟨fresh, begun, resembles⟩ := relaunched (desk "external")
    (launched.run (desk "internal") edits).files (fun _ _ => True) rfl rfl (desks_alike _ _)
  refine ⟨launched, fresh, ok, ?_, begun, resembles trivial, bound⟩
  cases loading : (launched.run (desk "internal") edits).loading (desk "internal") with
  | error cause => exact keeps cause loading
  | ok config =>
      rw [loading] at failed
      cases failed

end Course

end Daemon

end GlobalHotkeys
