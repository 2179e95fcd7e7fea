import GlobalHotkeys.Proofs.Manager.Events
import GlobalHotkeys.Proofs.Manager.Operations
import GlobalHotkeys.Proofs.NameMap
import GlobalHotkeys.Simulation.StandIn

namespace GlobalHotkeys

variable {World P κ : Type}

def HotkeyConfig.requests (config : HotkeyConfig) (kind : ProviderKind) (actions : List String) :
    List (String × Binding) :=
  kind.request config.startRecording .recording ++
    actions.flatMap fun name => kind.request (config.actionHotkey name) (.action name)

def ProviderCall.Genuine (machine : Machine World) (call : ProviderCall HotkeyProvider) : Prop :=
  ∃ before after, call.Happens machine.providers before after

namespace ProviderCall.Genuine

variable {machine : Machine World}

theorem create {kind : ProviderKind} {fresh : HotkeyProvider}
    (genuine : (ProviderCall.create kind fresh).Genuine machine) : fresh = .fresh kind := by
  obtain ⟨_, _, answer, -⟩ := genuine
  exact answer.symm

theorem register {provider : HotkeyProvider} {hotkey : String} {binding : Binding}
    {answer : Except HotkeyError HotkeyProvider}
    (genuine : (ProviderCall.register provider hotkey binding answer).Genuine machine) :
    ∃ world : World, (provider.register hotkey binding world).value = answer := by
  obtain ⟨world, _, answers, -⟩ := genuine
  exact ⟨world, answers⟩

theorem start {provider : HotkeyProvider} {answer : Except HotkeyError HotkeyProvider}
    (genuine : (ProviderCall.start provider answer).Genuine machine) :
    ∃ world : World, (provider.start machine world).value = answer := by
  obtain ⟨world, _, answers, -⟩ := genuine
  exact ⟨world, answers⟩

end ProviderCall.Genuine

/-! ## Starting -/

section Starting

variable {machine : Machine World} {config : HotkeyConfig} {actions : List String}
  {kind : ProviderKind} {calls : List (ProviderCall HotkeyProvider)}

theorem Offers.grants {provider last : HotkeyProvider} {requests : List (String × Binding)}
    (offers : Offers config actions provider calls last)
    (genuine : ∀ call ∈ calls, call.Genuine machine) (grants : provider.Grants kind requests) :
    last.Grants kind (requests ++
      actions.flatMap fun name => kind.request (config.actionHotkey name) (.action name)) := by
  induction offers generalizing requests with
  | nil provider => simpa using grants
  | unset unset others ih =>
      have nothing (name : String) : kind.request "" (.action name) = [] :=
        kind.request_of_none kind.idOf?_empty _
      rw [List.flatMap_cons, unset, nothing, List.nil_append]
      exact ih genuine grants
  | taken bound others ih =>
      obtain ⟨world, registered⟩ := (genuine _ List.mem_cons_self).register
      rw [List.flatMap_cons, ← List.append_assoc]
      exact ih (fun call member => genuine call (List.mem_cons_of_mem _ member))
        (grants.taken registered)
  | refused bound cause others ih =>
      obtain ⟨world, rejected⟩ := (genuine _ List.mem_cons_self).register
      rw [List.flatMap_cons, ← List.append_assoc]
      exact ih (fun call member => genuine call (List.mem_cons_of_mem _ member))
        (grants.refused rejected)

structure HotkeyProvider.Equipped (provider : HotkeyProvider) (config : HotkeyConfig)
    (actions : List String) : Prop where
  recording : provider.kind ≠ .null → (provider.kind.idOf? config.startRecording).isSome = true
  grants : provider.Grants provider.kind (config.requests provider.kind actions)

theorem HotkeyProvider.Equipped.congr {provider after : HotkeyProvider}
    (equipped : provider.Equipped config actions) (sameKind : after.kind = provider.kind)
    (same : after.bindings = provider.bindings) : after.Equipped config actions where
  recording := by
    rw [sameKind]
    exact equipped.recording
  grants := by
    rw [sameKind]
    exact equipped.grants.congr sameKind same

theorem Offers.equipped {first ready : HotkeyProvider}
    (offers : Offers config actions first calls ready)
    (genuine : ∀ call ∈ calls, call.Genuine machine) {world : World}
    (registered : ((HotkeyProvider.fresh kind).register config.startRecording .recording
      world).value = .ok first) :
    ready.kind = kind ∧ ready.Equipped config actions := by
  have none : (HotkeyProvider.fresh kind).Grants kind [] := .fresh kind
  have all : ready.Grants kind (config.requests kind actions) :=
    offers.grants genuine (none.taken registered)
  refine ⟨all.kind, fun real => ?_, by rwa [all.kind]⟩
  rw [all.kind] at real ⊢
  rw [← none.kind] at real
  obtain ⟨id, named, -⟩ := HotkeyProvider.register_eq_ok real registered
  rw [none.kind] at named
  rw [named]
  rfl

theorem Attempts.equipped {running : HotkeyProvider}
    (attempts : Attempts config actions kind calls (.ok running))
    (genuine : ∀ call ∈ calls, call.Genuine machine) : running.Equipped config actions := by
  cases attempts with
  | @started fresh first ready offered offers answer =>
      have offeredGenuine : ∀ call ∈ offered, call.Genuine machine := by
        intro call member
        exact genuine call (by simp [member])
      obtain rfl := (genuine (.create kind fresh) (by simp)).create
      obtain ⟨world, registered⟩ := (genuine (.register (.fresh kind) config.startRecording
        .recording (.ok first)) (by simp)).register
      obtain ⟨_, started⟩ := (genuine (.start ready (.ok running)) (by simp)).start
      obtain ⟨-, equipped⟩ := offers.equipped offeredGenuine registered
      obtain ⟨sameKind, same⟩ := HotkeyProvider.bindings_of_start started
      exact equipped.congr sameKind same

theorem Policy.exists_last_attempt {environment : Environment} {kinds : List ProviderKind} {running : P}
    {calls : List (ProviderCall P)}
    (policy : Policy config environment actions kinds calls (.ok running)) :
    ∃ kind earlier attempted, kinds.getLast? = some kind ∧ calls = earlier ++ attempted ∧
      Attempts config actions kind attempted (.ok running) := by
  cases policy with
  | success chooses attempts => exact ⟨_, _, _, rfl, rfl, attempts⟩
  | @second primary second choosing calls later cause answer chooses attempts free allowed fresh again =>
      exact ⟨second, choosing ++ (calls ++ [.create second fresh, .probe fresh true]), later, rfl, by simp,
        again⟩

end Starting

/-! ## Adding an action -/

section Adding

variable {actions : NameMap κ} {name : String} {config : HotkeyConfig}

theorem HotkeyConfig.exists_requests_insert (config : HotkeyConfig)
    (new : actions.contains name = false) (callback : κ) (kind : ProviderKind) :
    ∃ before later, config.requests kind actions.names = before ++ later ∧
      config.requests kind (actions.insert name callback).names =
        before ++ (kind.request (config.actionHotkey name) (.action name) ++ later) := by
  have absent : ∀ entry ∈ actions.entries, entry.1 ≠ name := by
    simpa [NameMap.contains] using new
  obtain ⟨before, later, split, inserted⟩ := NameMap.exists_insertEntry absent callback
  let asked (name : String) := kind.request (config.actionHotkey name) (.action name)
  refine ⟨config.requests kind (before.map Prod.fst), (later.map Prod.fst).flatMap asked, ?_, ?_⟩
  · simp [requests, NameMap.names, split, asked]
  · simp [requests, NameMap.names, NameMap.insert, inserted, asked]

namespace HotkeyProvider

variable {provider ready : HotkeyProvider}

theorem Equipped.added_unbound (equipped : provider.Equipped config actions.names)
    (new : actions.contains name = false) (unset : config.actionHotkey name = "") (callback : κ) :
    provider.Equipped config (actions.insert name callback).names := by
  obtain ⟨before, later, split, inserted⟩ :=
    config.exists_requests_insert new callback provider.kind
  rw [unset, ProviderKind.request_of_none provider.kind.idOf?_empty, List.nil_append] at inserted
  refine ⟨equipped.recording, ?_⟩
  rw [inserted, ← split]
  exact equipped.grants

theorem Equipped.added (equipped : provider.Equipped config actions.names)
    (new : actions.contains name = false) (callback : κ) {world : World}
    (registered : (provider.register (config.actionHotkey name) (.action name) world).value =
      .ok ready) :
    ready.Equipped config (actions.insert name callback).names := by
  obtain ⟨before, later, split, inserted⟩ :=
    config.exists_requests_insert new callback provider.kind
  have grants := equipped.grants.taken registered
  have sameKind : ready.kind = provider.kind := grants.kind
  refine ⟨by rw [sameKind]; exact equipped.recording, ?_⟩
  rw [sameKind, inserted]
  rw [split] at grants
  cases named : provider.kind.idOf? (config.actionHotkey name) with
  | none =>
      rw [ProviderKind.request_of_none named] at grants ⊢
      simpa using grants
  | some id =>
      have real : provider.kind ≠ .null := by
        intro idle
        rw [idle] at named
        cases named
      -- It was taken, so its id was free, and then no request so far is for it.
      obtain ⟨other, renamed, free, -⟩ := register_eq_ok real registered
      obtain rfl : id = other := Option.some.inj (named.symm.trans renamed)
      rw [ProviderKind.request_of_some named] at grants ⊢
      refine grants.moved ?_
      rw [← split, ← equipped.grants.bound]
      exact lookup_eq_none_iff.mpr free

end HotkeyProvider

end Adding

namespace HotkeyManager

/-! ## What every step keeps -/

section Faithful

def Faithful (manager : HotkeyManager HotkeyProvider κ) : Prop :=
  ∀ provider, manager.active = some provider →
    provider.Equipped manager.config manager.actions.names

variable {machine : Machine World} {manager after : HotkeyManager HotkeyProvider κ}
  {calls : List (ProviderCall HotkeyProvider)}

theorem faithful_of_inactive (inactive : manager.active = none) : manager.Faithful := by
  intro provider active
  rw [inactive] at active
  cases active

theorem Starts.faithful {answer : Except HotkeyError Unit} (starts : Starts manager answer after calls)
    (genuine : ∀ call ∈ calls, call.Genuine machine) (faithful : manager.Faithful) :
    after.Faithful := by
  cases starts with
  | rejected active => exact faithful
  | @policy kinds calls answer inactive policy =>
      cases answer with
      | error cause => exact faithful_of_inactive inactive
      | ok running =>
          obtain ⟨kind, earlier, attempted, -, rfl, attempts⟩ := policy.exists_last_attempt
          rintro provider ⟨⟩
          exact attempts.equipped fun call member => genuine call (List.mem_append_right _ member)

theorem Adds.faithful {name : String} {callback : κ} {answer : Except HotkeyError Unit}
    (adds : Adds manager name callback answer after calls)
    (genuine : ∀ call ∈ calls, call.Genuine machine) (faithful : manager.Faithful) :
    after.Faithful := by
  cases adds with
  | known known => exact faithful
  | refused new active bound cause => exact faithful
  | unbound new unbound =>
      intro provider active
      cases unbound with
      | inl inactive =>
          rw [inactive] at active
          cases active
      | inr unset => exact (faithful provider active).added_unbound new unset callback
  | @taken provider ready new active bound =>
      obtain ⟨_, registered⟩ := (genuine _ List.mem_cons_self).register
      rintro other ⟨⟩
      exact (faithful provider active).added new callback registered

theorem Performs.faithful {operation : ManagerOperation κ} {answer : ManagerAnswer}
    (performs : Performs manager operation answer after calls)
    (genuine : ∀ call ∈ calls, call.Genuine machine) (faithful : manager.Faithful) :
    after.Faithful := by
  cases performs with
  | start starts => exact starts.faithful genuine faithful
  | stop stops =>
      obtain ⟨_, rfl⟩ := stops.eq_with
      exact faithful_of_inactive rfl
  | reload stops starts =>
      obtain ⟨_, rfl⟩ := stops.eq_with
      exact starts.faithful (fun call member => genuine call (List.mem_append_right _ member))
        (faithful_of_inactive rfl)
  | addAction adds => exact adds.faithful genuine faithful
  | setCallbacks callbacks => exact faithful
  | capture limit answer calls => exact faithful
  | probe supported calls => exact faithful

theorem Retains.faithful (retains : Retains manager after) (faithful : manager.Faithful) :
    after.Faithful := by
  obtain ⟨active, recording, rfl, same⟩ := retains
  intro provider runs
  obtain ⟨before, ran, sameKind, sameBindings⟩ := same provider runs
  exact (faithful before ran).congr sameKind sameBindings

end Faithful

/-! ## Runs -/

inductive MachineStep (World κ : Type) where
  | operation (operation : ManagerOperation κ)
  | reading (index : Nat) (reading : Reading)
  | delivery (delivery : Delivery)
  | elapse (change : World → World)

structure MachineCourse (World κ : Type) where
  manager : HotkeyManager HotkeyProvider κ
  world : World

namespace MachineCourse

variable (machine : Machine World) (call : κ → Run World CallbackResult)

def step (course : MachineCourse World κ) : MachineStep World κ → MachineCourse World κ
  | .operation operation =>
    let after := operation.perform machine.providers course.manager course.world
    { manager := after.value.2, world := after.world }
  | .reading index reading =>
    let after := read call index reading course.manager course.world
    { manager := after.value.2, world := after.world }
  | .delivery delivery =>
    let after := hear call delivery course.manager course.world
    { manager := after.value.2, world := after.world }
  | .elapse change => { course with world := change course.world }

def after (config : HotkeyConfig) (environment : Environment) (world : World)
    (steps : List (MachineStep World κ)) : MachineCourse World κ :=
  steps.foldl (step machine call) { manager := { config, environment }, world }

theorem performs_step (course : MachineCourse World κ) (operation : ManagerOperation κ) :
    ∃ answer calls, Performs course.manager operation answer
        (course.step machine call (.operation operation)).manager calls ∧
      ∀ call ∈ calls, call.Genuine machine := by
  obtain ⟨calls, conducted, performs⟩ :=
    converses_perform machine.providers course.manager operation course.world
  exact ⟨_, calls, performs, fun call member => conducted.happens_of_mem member⟩

theorem faithful_step {course : MachineCourse World κ} (faithful : course.manager.Faithful)
    (step : MachineStep World κ) : (course.step machine call step).manager.Faithful := by
  cases step with
  | operation operation =>
      obtain ⟨answer, calls, performs, genuine⟩ := performs_step machine call course operation
      exact performs.faithful genuine faithful
  | reading index reading => exact (retains_read call index reading _ _).faithful faithful
  | delivery delivery => exact (retains_hear call delivery _ _).faithful faithful
  | elapse change => exact faithful

theorem faithful_after (config : HotkeyConfig) (environment : Environment) (world : World)
    (steps : List (MachineStep World κ)) :
    (after machine call config environment world steps).manager.Faithful := by
  induction steps using List.reverseRecOn with
  | nil => exact faithful_of_inactive rfl
  | append_singleton steps step ih =>
      rw [after, List.foldl_concat]
      exact faithful_step machine call ih step

/-- A restart and a reload with the same settings, the world moving on meanwhile. -/
def restarts (change : World → World) (config : HotkeyConfig) : List (List (MachineStep World κ)) :=
  [[.operation .stop, .elapse change, .operation .start],
    [.elapse change, .operation (.reload config)]]

theorem settings_of_restart (course : MachineCourse World κ) (change : World → World)
    {later : List (MachineStep World κ)} (restart : later ∈ restarts change course.manager.config) :
    let again := later.foldl (step machine call) course
    again.manager.config = course.manager.config ∧ again.manager.actions = course.manager.actions := by
  rcases List.mem_pair.mp restart with rfl | rfl
  · let stopped := course.step machine call (.operation .stop)
    obtain ⟨_, _, stops, -⟩ := performs_step machine call course .stop
    obtain ⟨_, _, starts, -⟩ :=
      performs_step machine call (stopped.step machine call (.elapse change)) .start
    exact ⟨starts.config.trans stops.config, (starts.actions rfl).trans (stops.actions rfl)⟩
  · obtain ⟨_, _, reloads, -⟩ := performs_step machine call
      (course.step machine call (.elapse change)) (.reload course.manager.config)
    exact ⟨reloads.config, reloads.actions rfl⟩

end MachineCourse

theorem exists_registerAll (machine : Machine World) {manager : HotkeyManager HotkeyProvider κ}
    {provider : HotkeyProvider} (real : provider.kind ≠ .null)
    (equipped : provider.Equipped manager.config manager.actions.names) (world : World) :
    ∃ built, (registerAll machine.providers manager (.fresh provider.kind) world).value = .ok built ∧
      built.kind = provider.kind ∧ built.Equipped manager.config manager.actions.names := by
  obtain ⟨calls, conducted, ends⟩ :=
    converses_registerAll machine.providers manager (.fresh provider.kind) world
  have genuine : ∀ call ∈ calls, call.Genuine machine :=
    fun call member => conducted.happens_of_mem member
  obtain ⟨cause, answer, rfl⟩ | ⟨first, ready, offered, answer, rfl, offers⟩ := ends
  · -- The recording hotkey was taken once, and a fresh provider has no id bound that could refuse it.
    obtain ⟨_, rejected⟩ := (genuine _ List.mem_cons_self).register
    have fresh : (HotkeyProvider.fresh provider.kind).Grants provider.kind [] := .fresh _
    obtain ⟨id, named⟩ := Option.isSome_iff_exists.mp (equipped.recording real)
    rw [← fresh.kind] at named
    have bound := HotkeyProvider.register_eq_error rejected named
    have free := HotkeyProvider.lookup_eq_none_iff.mp (fresh.bound id)
    exact absurd bound free
  · obtain ⟨_, registered⟩ := (genuine _ List.mem_cons_self).register
    have offeredGenuine : ∀ call ∈ offered, call.Genuine machine :=
      fun call member => genuine call (List.mem_cons_of_mem _ member)
    obtain ⟨sameKind, built⟩ := offers.equipped offeredGenuine registered
    exact ⟨ready, answer, sameKind, built⟩

/-- After any run on any machine: what the active provider of the portal or the keyboards has bound is
what a fresh one of its kind would be given, without an id bound twice; an action that is rejected
changes nothing; and a restart or a reload with the same settings that ends with the same kind of
provider has the same bound. -/
theorem bindings_follow_settings (machine : Machine World) (call : κ → Run World CallbackResult)
    (config : HotkeyConfig) (environment : Environment) (world : World)
    (steps : List (MachineStep World κ)) :
    let course := MachineCourse.after machine call config environment world steps
    let manager := course.manager
    (∀ provider, manager.active = some provider → provider.kind ≠ .null →
      provider.ids.Nodup ∧ ∀ world, ∃ built,
        (registerAll machine.providers manager (.fresh provider.kind) world).value = .ok built ∧
        built.ids.Nodup ∧ provider.bindings.Perm built.bindings) ∧
    (∀ name callback cause,
      let added := (addAction machine.providers name callback manager course.world).value
      added.1 = .error cause → added.2 = manager) ∧
    ∀ change, ∀ later ∈ MachineCourse.restarts change manager.config,
      let again := MachineCourse.after machine call config environment world (steps ++ later)
      ∀ provider restarted, manager.active = some provider → again.manager.active = some restarted →
        restarted.kind = provider.kind → restarted.bindings.Perm provider.bindings := by
  intro course manager
  have faithful := MachineCourse.faithful_after machine call config environment world steps
  refine ⟨?_, ?_, ?_⟩
  · intro provider active real
    have equipped := faithful provider active
    refine ⟨equipped.grants.distinct, fun world => ?_⟩
    obtain ⟨built, answer, sameKind, complete⟩ := exists_registerAll machine real equipped world
    have grants := complete.grants
    rw [sameKind] at grants
    exact ⟨built, answer, grants.distinct, equipped.grants.perm grants⟩
  · intro name callback cause added rejected
    obtain ⟨calls, -, adds⟩ :=
      converses_addAction machine.providers manager name callback course.world
    exact adds.eq_of_error rejected
  · intro change later restart again provider restarted active resumed sameKind
    have split : again = later.foldl (MachineCourse.step machine call) course :=
      List.foldl_append
    have resumedFaithful : again.manager.Faithful :=
      MachineCourse.faithful_after machine call config environment world (steps ++ later)
    obtain ⟨sameConfig, sameActions⟩ :=
      MachineCourse.settings_of_restart machine call course change restart
    rw [← split] at sameConfig sameActions
    have before := (faithful provider active).grants
    have afterwards := (resumedFaithful restarted resumed).grants
    rw [sameKind, sameConfig, sameActions] at afterwards
    exact afterwards.perm before

/-! ## Restarts of an AppImage -/

section AppImage

open Simulation

def accented : HotkeyConfig where
  actions := .ofList [("accent", "ctrl+eacute")]

def appImageCourse (config : HotkeyConfig) (steps : List (MachineStep Stage Unit)) :
    MachineCourse Stage Unit :=
  .after Stage.machine (fun _ => pure none) config { runtime := .appImage, desktop := "" }
    { bus := { script := {} }, source := .keyboards 1 none } steps

/-- One action is skipped at each start. Another comes after the first start, so that the next one has
it in another place. -/
theorem restart_keeps_table :
    let config : HotkeyConfig :=
      { actions := .ofList [("accent", "ctrl+eacute"), ("draft", "ctrl+f8"), ("note", "ctrl+f9")] }
    let started : List (MachineStep Stage Unit) :=
      [.operation (.addAction "accent" ()), .operation (.addAction "note" ()), .operation .start,
        .operation (.addAction "draft" ())]
    let restart := [.operation .stop, .elapse id, .operation .start]
    ∃ provider restarted, (appImageCourse config started).manager.active = some provider ∧
      (appImageCourse config (started ++ restart)).manager.active = some restarted ∧
      (appImageCourse config started).manager.actions.names = ["accent", "draft", "note"] ∧
      provider.kind = .evdev ∧ restarted.kind = .evdev ∧
      provider.bindings = [("ctrl+alt+r", .recording), ("ctrl+f9", .action "note"),
        ("ctrl+f8", .action "draft")] ∧
      restarted.bindings.Perm provider.bindings := by
  intro config started restart
  have begun : (let manager := (appImageCourse config started).manager
      (manager.actions.names, manager.active.map fun provider => (provider.kind, provider.bindings))) =
      (["accent", "draft", "note"], some (.evdev, [("ctrl+alt+r", .recording),
        ("ctrl+f9", .action "note"), ("ctrl+f8", .action "draft")])) := by decide +kernel
  have resumed : (appImageCourse config (started ++ restart)).manager.active.map HotkeyProvider.kind =
      some .evdev := by decide +kernel
  obtain ⟨names, runs⟩ := Prod.mk.inj begun
  obtain ⟨provider, active, table⟩ := Option.map_eq_some_iff.mp runs
  obtain ⟨kind, bound⟩ := Prod.mk.inj table
  obtain ⟨restarted, again, sameKind⟩ := Option.map_eq_some_iff.mp resumed
  have listed : restart ∈ MachineCourse.restarts id (appImageCourse config started).manager.config :=
    List.mem_cons_self
  obtain ⟨-, -, keeps⟩ := bindings_follow_settings Stage.machine (fun _ : Unit => pure none) config
    { runtime := .appImage, desktop := "" } { bus := { script := {} }, source := .keyboards 1 none }
    started
  exact ⟨provider, restarted, active, again, names, kind, sameKind, bound,
    keeps id restart listed provider restarted active again (sameKind.trans kind.symm)⟩

/-- Without the keyboard a restart ends with the portal, which takes an action that the keyboards had
refused. -/
theorem restart_binds_another_table :
    let started := [MachineStep.operation (.addAction "accent" ()), .operation .start]
    let unplug (stage : Stage) : Stage := { stage with source := .keyboards 0 none }
    let restarted := started ++ [.operation .stop, .elapse unplug, .operation .start]
    let table (course : MachineCourse Stage Unit) :=
      course.manager.active.map fun provider => (provider.kind, provider.bindings)
    table (appImageCourse accented started) = some (.evdev, [("ctrl+alt+r", .recording)]) ∧
    table (appImageCourse accented restarted) =
      some (.portal, [("ctrl+alt+r", .recording), ("ctrl+eacute", .action "accent")]) := by
  decide +kernel

end AppImage

end HotkeyManager

end GlobalHotkeys
