import GlobalHotkeys.Proofs.Manager.Lockstep
import GlobalHotkeys.Proofs.Manager.Skipped
import GlobalHotkeys.Proofs.Manager.Taken
import GlobalHotkeys.Proofs.Provider.Heedless

/-!
# Starts that do not heed the actions

Whatever actions a manager has and whatever hotkeys the settings give them, it starts in the same way with
providers that do not heed the actions: a hotkey that is empty, no hotkey at all, or taken already costs
only its own action, and a warning.
-/

namespace GlobalHotkeys

variable {World P κ : Type} {same : World → World → Prop} {like : P → P → Prop}

def attemptedKinds : List NumberedUse → List ProviderKind
  | (_, .create kind) :: (_, .register _ .recording _) :: later => kind :: attemptedKinds later
  | _ :: later => attemptedKinds later
  | [] => []

section Attempted

variable {config : HotkeyConfig} {environment : Environment} {names : List String} {kind : ProviderKind}
  {calls : List (ProviderCall (Numbered P))}

theorem heededUses_calls_append (rest : List (ProviderCall (Numbered P))) (later : List NumberedUse) :
    heededUses ((calls ++ rest).map ProviderCall.use) ++ later =
      heededUses (calls.map ProviderCall.use) ++ (heededUses (rest.map ProviderCall.use) ++ later) := by
  rw [List.map_append, heededUses_append, List.append_assoc]

theorem Offers.heededUses {provider last : Numbered P} (offers : Offers config names provider calls last) :
    heededUses (calls.map ProviderCall.use) = [] := by
  induction offers with
  | nil => rfl
  | unset unset others ih => exact ih
  | taken bound others ih => exact ih
  | refused bound cause others ih => exact ih

theorem Asks.attemptedKinds {kinds able : List ProviderKind} (asks : Asks kinds calls able)
    (later : List NumberedUse) :
    attemptedKinds (GlobalHotkeys.heededUses (calls.map ProviderCall.use) ++ later) = attemptedKinds later := by
  induction asks with
  | nil => rfl
  | able fresh others ih => exact ih
  | unable fresh others ih => exact ih

theorem Chooses.attemptedKinds (chooses : Chooses config environment calls kind) (later : List NumberedUse) :
    attemptedKinds (heededUses (calls.map ProviderCall.use) ++ later) = attemptedKinds later := by
  cases chooses with
  | fixed choice => rfl
  | first free asks => exact asks.attemptedKinds later

theorem Attempts.attemptedKinds {answer : Except HotkeyError (Numbered P)}
    (attempts : Attempts config names kind calls answer) (later : List NumberedUse) :
    attemptedKinds (heededUses (calls.map ProviderCall.use) ++ later) =
      kind :: attemptedKinds later := by
  cases attempts with
  | refused fresh cause => rfl
  | @started fresh first ready offered offers answer =>
      show kind :: GlobalHotkeys.attemptedKinds
        (heededUses ((offered ++ [ProviderCall.start ready answer]).map ProviderCall.use) ++ later) = _
      rw [heededUses_calls_append, offers.heededUses]
      rfl

theorem Policy.attemptedKinds {kinds : List ProviderKind} {answer : Except HotkeyError (Numbered P)}
    (policy : Policy config environment names kinds calls answer) (later : List NumberedUse) :
    attemptedKinds (heededUses (calls.map ProviderCall.use) ++ later) = kinds ++ attemptedKinds later := by
  cases policy with
  | success chooses attempts =>
      rw [heededUses_calls_append, chooses.attemptedKinds, attempts.attemptedKinds, List.singleton_append]
  | alone chooses attempts alone =>
      rw [heededUses_calls_append, chooses.attemptedKinds, attempts.attemptedKinds, List.singleton_append]
  | unable chooses attempts free allowed fresh =>
      rw [heededUses_calls_append, chooses.attemptedKinds, heededUses_calls_append, attempts.attemptedKinds]
      rfl
  | second chooses attempts free allowed fresh again =>
      rw [heededUses_calls_append, chooses.attemptedKinds, heededUses_calls_append, attempts.attemptedKinds]
      exact congrArg _ (again.attemptedKinds later)

end Attempted

namespace Providers.Heedless

variable {providers : Providers World P} (heedless : providers.Heedless same like)

include heedless

theorem registerActions (config : HotkeyConfig) (names : List String) {provider another : P}
    {now other : World} (alike : like provider another) (still : same now other) :
    let after := HotkeyManager.registerActions providers config names provider now
    like after.value another ∧ same after.world other := by
  induction names generalizing provider now with
  | nil => exact ⟨alike, still⟩
  | cons name rest ih =>
      unfold HotkeyManager.registerActions
      dsimp only
      split_ifs with unset
      · exact ih alike still
      · obtain ⟨kept, taken⟩ := heedless.action alike still (config.actionHotkey name) name
        rw [Run.bind_apply]
        dsimp only
        generalize providers.register provider (config.actionHotkey name) (.action name) now = offered
          at kept taken ⊢
        obtain ⟨answer, world, log⟩ := offered
        cases answer with
        | ok next => exact ih (taken next rfl) kept
        | error cause => exact ih alike kept

theorem lockstep_registerActions (config configToo : HotkeyConfig) (names namesToo : List String)
    {provider another : P} (alike : like provider another) :
    Lockstep same like (HotkeyManager.registerActions providers config names provider)
      (HotkeyManager.registerActions providers configToo namesToo another) := by
  intro now other still
  obtain ⟨first, after⟩ := heedless.registerActions config names alike still
  -- The other side moves from where this one has come to.
  obtain ⟨second, later⟩ := heedless.registerActions configToo namesToo (heedless.likeSymm first)
    (heedless.symm after)
  exact ⟨heedless.likeSymm second, heedless.symm later⟩

end Providers.Heedless

namespace HotkeyManager

/-- The same manager, but with these actions, to which the settings give these hotkeys. -/
def withActions (manager : HotkeyManager P κ) (hotkeys : NameMap String) (actions : NameMap κ) :
    HotkeyManager P κ :=
  { manager with config := { manager.config with actions := hotkeys }, actions }

theorem parallel_withActions {providers : Providers World P} (heedless : providers.Heedless same like)
    (manager : HotkeyManager P κ) (hotkeys : NameMap String) (actions : NameMap κ) :
    Parallel providers providers same (providers.FreshAlike same like) like manager
      (manager.withActions hotkeys actions) where
  choice := rfl
  environment := rfl
  create := heedless.create
  isSupported fresh := fresh.isSupported
  equip fresh := by
    unfold registerAll
    refine (fresh.register manager.config.startRecording).bind fun answer _ agree => ?_
    cases agree with
    | error cause => exact .pure (.error cause)
    | ok taken =>
        exact (heedless.lockstep_registerActions _ _ _ _ taken).bind fun _ _ ready => .pure (.ok ready)
  start := heedless.start

/-- A start of a manager without a provider: it follows the policy in these calls, it warns of each
action's hotkey that was refused, and of the provider that it leaves running the table holds the
recording hotkey and the hotkeys of the actions that it took. -/
structure Launch (providers : Providers World P) (manager : HotkeyManager (Numbered P) κ)
    (now : Watched World) (kinds : List ProviderKind) (calls : List (ProviderCall (Numbered P)))
    (answer : Except HotkeyError (Numbered P)) : Prop where
  plain : start providers manager.unwatched now.world =
    { value := ((start providers.watched manager now).value.1,
        (start providers.watched manager now).value.2.unwatched)
      world := (start providers.watched manager now).world.world
      log := (start providers.watched manager now).log }
  policy : Policy manager.config manager.environment manager.actions.names kinds calls answer
  conversation : Conversation providers.watched now calls (start providers.watched manager now).world
  uses : (start providers.watched manager now).world.uses = now.uses ++ calls.map ProviderCall.use
  answered : (start providers.watched manager now).value.1 = answer.map fun _ => ()
  active : ∀ running, (start providers.watched manager now).value.2.active = some running ↔
    answer = .ok running
  muted : Fainter (start providers.watched.muted manager) (start providers.watched manager)
  warnings : (start providers.watched.muted manager now).log.filter LogLine.skips =
    dueWarnings (calls.map ProviderCall.use)
  binds : ∀ running, answer = .ok running → ∃ kind earlier attempted,
    kinds.getLast? = some kind ∧ calls = earlier ++ attempted ∧
    Attempts manager.config manager.actions.names kind attempted (.ok running) ∧
    ∀ idOf tableOf?, providers.Tables idOf tableOf? → ∀ table ∈ tableOf? running.provider,
      Binds manager.config manager.actions.names idOf attempted table

theorem exists_launch (providers : Providers World P) {manager : HotkeyManager (Numbered P) κ}
    (inactive : manager.active = none) (now : Watched World) :
    ∃ kinds calls answer, Launch providers manager now kinds calls answer := by
  obtain ⟨plain, kinds, calls, answer, policy, -, conversation, uses, answered, active⟩ :=
    start_follows_policy providers manager inactive now.world now.uses
  refine ⟨kinds, calls, answer, plain, policy, conversation, uses, answered, active,
    fainter_start providers.watched manager, skipped_start providers uses, ?_⟩
  rintro running rfl
  obtain ⟨kind, earlier, attempted, last, split, attempts⟩ := policy.exists_last_attempt
  refine ⟨kind, earlier, attempted, last, split, attempts, fun idOf tableOf? tables table known => ?_⟩
  refine attempts.binds tables.watched (fun call member => ?_) known
  exact conversation.happens_of_mem (by simp [split, member])

theorem Launch.attemptedKinds {providers : Providers World P} {manager : HotkeyManager (Numbered P) κ}
    {now : Watched World} {kinds : List ProviderKind} {calls : List (ProviderCall (Numbered P))}
    {answer : Except HotkeyError (Numbered P)} (launch : Launch providers manager now kinds calls answer) :
    GlobalHotkeys.attemptedKinds (heededUses (calls.map ProviderCall.use)) = kinds := by
  simpa [GlobalHotkeys.attemptedKinds] using launch.policy.attemptedKinds []

theorem numbers_of_rel {active running : Option (Numbered P)}
    (alike : Option.Rel (Numbered.Like like) active running) :
    active.map Numbered.number = running.map Numbered.number := by
  cases alike with
  | some alike => exact congrArg some alike.number
  | none => rfl

variable {providers : Providers World P}

/-- Whatever actions a manager has and whatever hotkeys the settings give them, it starts with the same
answer, ends in the same state and with the same provider active, or none, and on the way does the same
with providers, but for the offers of actions' hotkeys. Either way it attempts the same kinds; it warns
once about each hotkey of an action that was refused; and the provider that is active then has the
recording hotkey bound to its id, and the hotkeys of just those actions that it took. -/
theorem start_alike_with_actions (heedless : providers.Heedless same like)
    (manager : HotkeyManager (Numbered P) κ) (hotkeys : NameMap String) (actions : NameMap κ)
    {world other : World} (alike : same world other) (uses : List NumberedUse) :
    let another := manager.withActions hotkeys actions
    let after := start providers.watched manager { world, uses }
    let later := start providers.watched another { world := other, uses }
    after.value.1 = later.value.1 ∧
    after.value.2.state = later.value.2.state ∧
    after.value.2.active.map Numbered.number = later.value.2.active.map Numbered.number ∧
    heededUses after.world.uses = heededUses later.world.uses ∧
    (manager.active = none → ∃ kinds,
      (∃ calls answer, Launch providers manager { world, uses } kinds calls answer) ∧
      ∃ calls answer, Launch providers another { world := other, uses } kinds calls answer) := by
  intro another after later
  cases inactive : manager.active with
  | some provider =>
      have busy : manager.active.isSome = true := by rw [inactive]; rfl
      have busyToo : another.active.isSome = true := busy
      have rejected : after = _ := start_of_active providers.watched busy _
      have rejectedToo : later = _ := start_of_active providers.watched busyToo _
      rw [rejected, rejectedToo]
      exact ⟨rfl, rfl, rfl, rfl, nofun⟩
  | none =>
      have inactiveToo : another.active = none := inactive
      have parallel := parallel_withActions heedless.watched manager hotkeys actions
      obtain ⟨⟨answer, beside, state⟩, worlds⟩ := parallel.lockstep_start inactive inactiveToo
        { world, uses } { world := other, uses } ⟨alike, rfl⟩
      have numbers : after.value.2.active.map Numbered.number =
          later.value.2.active.map Numbered.number := numbers_of_rel beside.active
      refine ⟨answer, state, numbers, worlds.uses, fun _ => ?_⟩
      obtain ⟨kinds, calls, ended, launch⟩ := exists_launch providers inactive { world, uses }
      obtain ⟨kindsToo, callsToo, endedToo, launchToo⟩ :=
        exists_launch providers inactiveToo { world := other, uses }
      -- The uses that both have in common tell which kinds were attempted.
      have common : heededUses (calls.map ProviderCall.use) = heededUses (callsToo.map ProviderCall.use) := by
        have heeded := worlds.uses
        rw [launch.uses, launchToo.uses, heededUses_append, heededUses_append] at heeded
        exact List.append_cancel_left heeded
      obtain rfl : kinds = kindsToo := by
        rw [← launch.attemptedKinds, common, launchToo.attemptedKinds]
      exact ⟨kinds, ⟨calls, ended, launch⟩, callsToo, endedToo, launchToo⟩

def withoutSessions : Machine Unit where
  bus :=
    { connect := pure (.ok ":1.5")
      subscribe := fun _ => pure (.ok ())
      call := fun
        | .introspect _ => pure { reply := .ok (.text Portal.shortcutsInterface) }
        | _ => pure { reply := .error .noAnswer }
      wait := pure []
      nextNumber := pure 0
      processId := 7 }
  keyboards :=
    { present := pure true
      openAll := pure (.ok [{ index := 0, name := "internal" }])
      listen := fun _ => pure [] }
  environment := pure { runtime := .system, desktop := "sway" }
  inInputGroup := true

theorem heedless_withoutSessions : withoutSessions.providers.Heedless Eq HotkeyProvider.Akin := by
  refine Machine.heedless (.refl _) Eq.symm fun ids others now later _ => ⟨?_, Subsingleton.elim _ _⟩
  have refused (ids : List String) (now : Unit) : ((Portal.openSession withoutSessions.bus ids).run now).value =
      .error (.protocol BusError.noAnswer.message) := rfl
  rw [refused, refused]
  exact .error _

def crowded : HotkeyManager (Numbered HotkeyProvider) Unit where
  config :=
    { startRecording := "f9"
      actions := .ofList [("blank", " "), ("copy", "ctrl+c"), ("nonsense", "ctrl"), ("record", "F9")] }
  environment := { runtime := .system, desktop := "sway" }
  actions := .ofList [("blank", ()), ("copy", ()), ("nonsense", ()), ("record", ()), ("unset", ())]

/-- With all these actions as with none, the portal's provider does not start and that of the keyboards
does. Of the actions it has taken one, and what it has bound is what its attempt tells. -/
theorem crowded_starts_alike :
    ∃ after later, start withoutSessions.providers.watched crowded { world := () } = after ∧
      start withoutSessions.providers.watched (crowded.withActions .empty .empty) { world := () } = later ∧
      withoutSessions.providers.Heedless Eq HotkeyProvider.Akin ∧
      (∃ kinds,
        (∃ calls answer, Launch withoutSessions.providers crowded { world := () } kinds calls answer) ∧
        ∃ calls answer, Launch withoutSessions.providers (crowded.withActions .empty .empty)
          { world := () } kinds calls answer) ∧
      (∃ running kind attempted, after.value.2.active = some running ∧
        Attempts crowded.config crowded.actions.names kind attempted (.ok running) ∧
        Binds crowded.config crowded.actions.names normalizeHotkey attempted
          [("f9", .recording), ("ctrl+c", .action "copy")]) ∧
      after.value.2.active.map (fun numbered => numbered.provider.bindings) =
        some [("f9", .recording), ("ctrl+c", .action "copy")] ∧
      later.value.1.toOption = some () ∧
      later.value.2.state = .listening .evdev ∧
      later.value.2.active.map Numbered.number = some 4 ∧
      heededUses later.world.uses = heededUses after.world.uses := by
  have known : (let after := start withoutSessions.providers.watched crowded { world := () }
      (after.value.1.toOption, after.value.2.state, after.value.2.active.map Numbered.number)) =
      (some (), .listening .evdev, some 4) := by
    decide +kernel
  have tables : (start withoutSessions.providers.watched crowded { world := () }).value.2.active.map
      (fun numbered => numbered.provider.table?) =
      some (some [("f9", .recording), ("ctrl+c", .action "copy")]) := by
    decide +kernel
  obtain ⟨answer, state, number, uses, launches⟩ := start_alike_with_actions heedless_withoutSessions
    crowded .empty .empty (Eq.refl ()) []
  obtain ⟨kinds, ⟨calls, ended, launch⟩, launchToo⟩ := launches rfl
  have active := launch.active
  refine ⟨_, _, rfl, rfl, heedless_withoutSessions, ⟨kinds, ⟨calls, ended, launch⟩, launchToo⟩, ?_⟩
  -- From here on the two runs are known by these facts alone, so that nothing evaluates them again.
  revert known tables answer state number uses active
  generalize start withoutSessions.providers.watched crowded { world := () } = after
  generalize start withoutSessions.providers.watched (crowded.withActions .empty .empty) { world := () } = later
  intro known tables answer state number uses active
  obtain ⟨answered, known⟩ := Prod.mk.inj known
  obtain ⟨listening, fifth⟩ := Prod.mk.inj known
  obtain ⟨running, runs, table⟩ := Option.map_eq_some_iff.mp tables
  obtain ⟨kind, -, attempted, -, -, attempts, binds⟩ := launch.binds running ((active running).mp runs)
  have bound := binds normalizeHotkey HotkeyProvider.table? withoutSessions.tables _ table
  refine ⟨⟨running, kind, attempted, runs, attempts, bound⟩, ?_, answer ▸ answered, state ▸ listening,
    number ▸ fifth, uses.symm⟩
  unfold HotkeyProvider.table? at table
  split_ifs at table
  rw [runs, Option.map_some, Option.some.inj table]

end HotkeyManager

end GlobalHotkeys
