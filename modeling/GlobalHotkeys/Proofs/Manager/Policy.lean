import GlobalHotkeys.Proofs.Manager.Erasure
import GlobalHotkeys.Proofs.Provider.Conversation

/-!
# The policy of a start

Which providers a start asks, attempts and falls back to, and in which order it calls them, given what
they answer.
-/

namespace GlobalHotkeys

variable {World P κ : Type}

def ProviderChoice.kind? : ProviderChoice → Option ProviderKind
  | auto => none
  | dbus => some .portal
  | evdev => some .evdev

inductive Asks : List ProviderKind → List (ProviderCall P) → (able : List ProviderKind) → Prop where
  | nil : Asks [] [] []
  | able {kind : ProviderKind} {rest able : List ProviderKind} {calls : List (ProviderCall P)}
      (fresh : P) (others : Asks rest calls able) :
      Asks (kind :: rest) (.create kind fresh :: .probe fresh true :: calls) (kind :: able)
  | unable {kind : ProviderKind} {rest able : List ProviderKind} {calls : List (ProviderCall P)}
      (fresh : P) (others : Asks rest calls able) :
      Asks (kind :: rest) (.create kind fresh :: .probe fresh false :: calls) able

/-- How the kind to attempt first is chosen: a fixed choice is taken without asking; else it is the
first candidate that can work, or the null provider. -/
inductive Chooses (config : HotkeyConfig) (environment : Environment) :
    List (ProviderCall P) → ProviderKind → Prop where
  | fixed {kind : ProviderKind} (choice : config.provider.kind? = some kind) :
      Chooses config environment [] kind
  | first {calls : List (ProviderCall P)} {able : List ProviderKind} (free : config.provider = .auto)
      (asks : Asks (candidateOrder environment.runtime) calls able) :
      Chooses config environment calls (able.head?.getD .null)

/-- The provider is offered the hotkeys of these actions, in this order. An action without a hotkey is
left out, and one that the provider refuses does not stop the others. -/
inductive Offers (config : HotkeyConfig) :
    List String → P → List (ProviderCall P) → P → Prop where
  | nil (provider : P) : Offers config [] provider [] provider
  | unset {name : String} {names : List String} {provider last : P} {calls : List (ProviderCall P)}
      (unset : config.actionHotkey name = "") (others : Offers config names provider calls last) :
      Offers config (name :: names) provider calls last
  | taken {name : String} {names : List String} {provider next last : P}
      {calls : List (ProviderCall P)} (bound : config.actionHotkey name ≠ "")
      (others : Offers config names next calls last) :
      Offers config (name :: names) provider
        (.register provider (config.actionHotkey name) (.action name) (.ok next) :: calls) last
  | refused {name : String} {names : List String} {provider last : P} {calls : List (ProviderCall P)}
      (bound : config.actionHotkey name ≠ "") (cause : HotkeyError)
      (others : Offers config names provider calls last) :
      Offers config (name :: names) provider
        (.register provider (config.actionHotkey name) (.action name) (.error cause) :: calls) last

/-- A fresh provider is given the recording hotkey, which it must take, then the hotkeys of these
actions, and then started. -/
inductive Attempts (config : HotkeyConfig) (actions : List String) (kind : ProviderKind) :
    List (ProviderCall P) → Except HotkeyError P → Prop where
  | refused (fresh : P) (cause : HotkeyError) :
      Attempts config actions kind
        [.create kind fresh, .register fresh config.startRecording .recording (.error cause)]
        (.error cause)
  | started (fresh : P) {first ready : P} {calls : List (ProviderCall P)}
      (offers : Offers config actions first calls ready) (answer : Except HotkeyError P) :
      Attempts config actions kind
        (.create kind fresh :: .register fresh config.startRecording .recording (.ok first) ::
          (calls ++ [.start ready answer]))
        answer

/-- What a start does: the kinds that it attempts, the calls it makes, and the answer of the last
attempt. Another kind is attempted only after the first attempt has failed, where the choice is free,
a fallback is allowed, and a fresh provider of it can work. -/
inductive Policy (config : HotkeyConfig) (environment : Environment) (actions : List String) :
    List ProviderKind → List (ProviderCall P) → Except HotkeyError P → Prop where
  | success {primary : ProviderKind} {choosing calls : List (ProviderCall P)} {running : P}
      (chooses : Chooses config environment choosing primary)
      (attempts : Attempts config actions primary calls (.ok running)) :
      Policy config environment actions [primary] (choosing ++ calls) (.ok running)
  | alone {primary : ProviderKind} {choosing calls : List (ProviderCall P)} {cause : HotkeyError}
      (chooses : Chooses config environment choosing primary)
      (attempts : Attempts config actions primary calls (.error cause))
      (alone : config.provider ≠ .auto ∨ fallbackFor primary environment = none) :
      Policy config environment actions [primary] (choosing ++ calls) (.error cause)
  | unable {primary second : ProviderKind} {choosing calls : List (ProviderCall P)}
      {cause : HotkeyError} (chooses : Chooses config environment choosing primary)
      (attempts : Attempts config actions primary calls (.error cause))
      (free : config.provider = .auto) (allowed : fallbackFor primary environment = some second)
      (fresh : P) :
      Policy config environment actions [primary]
        (choosing ++ (calls ++ [.create second fresh, .probe fresh false])) (.error cause)
  | second {primary second : ProviderKind} {choosing calls later : List (ProviderCall P)}
      {cause : HotkeyError} {answer : Except HotkeyError P}
      (chooses : Chooses config environment choosing primary)
      (attempts : Attempts config actions primary calls (.error cause))
      (free : config.provider = .auto) (allowed : fallbackFor primary environment = some second)
      (fresh : P) (again : Attempts config actions second later answer) :
      Policy config environment actions [primary, second]
        (choosing ++ (calls ++ (.create second fresh :: .probe fresh true :: later))) answer

theorem fallbackFor_ne {primary second : ProviderKind} {environment : Environment}
    (allowed : fallbackFor primary environment = some second) : primary ≠ second := by
  rintro rfl
  cases primary <;> simp [fallbackFor, otherProvider?] at allowed

theorem Policy.kinds_nodup {config : HotkeyConfig} {environment : Environment}
    {actions : List String} {kinds : List ProviderKind} {calls : List (ProviderCall P)}
    {answer : Except HotkeyError P} (policy : Policy config environment actions kinds calls answer) :
    kinds.Nodup := by
  cases policy with
  | second chooses attempts free allowed fresh again => simpa using fallbackFor_ne allowed
  | _ => simp

theorem Asks.subset {kinds able : List ProviderKind} {calls : List (ProviderCall P)}
    (asks : Asks kinds calls able) : able ⊆ kinds := by
  induction asks with
  | nil => exact List.Subset.refl _
  | able fresh others ih => exact List.cons_subset_cons _ ih
  | unable fresh others ih => exact List.subset_cons_of_subset _ ih

theorem Asks.find?_eq_head? {kinds able : List ProviderKind} {calls : List (ProviderCall P)}
    {works : ProviderKind → Bool} (asks : Asks kinds calls able) (distinct : kinds.Nodup)
    (told : ∀ kind ∈ kinds, works kind = true ↔ kind ∈ able) :
    kinds.find? works = able.head? := by
  induction asks with
  | nil => rfl
  | @able kind rest able calls fresh others ih =>
      rw [List.find?_cons_of_pos ((told kind List.mem_cons_self).mpr List.mem_cons_self)]
      rfl
  | @unable kind rest able calls fresh others ih =>
      obtain ⟨new, distinctRest⟩ := List.nodup_cons.mp distinct
      have silent : ¬ works kind = true := fun yes =>
        new (others.subset ((told kind List.mem_cons_self).mp yes))
      rw [List.find?_cons_of_neg silent]
      exact ih distinctRest fun other member => told other (List.mem_cons_of_mem _ member)

theorem candidateOrder_nodup (runtime : Runtime) : (candidateOrder runtime).Nodup := by
  cases runtime <;> decide

theorem null_not_mem_candidateOrder (runtime : Runtime) : .null ∉ candidateOrder runtime := by
  cases runtime <;> decide

theorem Supported.contains_set {supported : Supported} {kind other : ProviderKind} {answer : Bool}
    (real : kind ≠ .null) :
    (supported.set kind answer).contains other =
      if other = kind then answer else supported.contains other := by
  cases kind <;> cases other <;> simp_all [Supported.set, Supported.contains]

namespace HotkeyManager

variable (providers : Providers World P)

theorem converses_asking (kinds : List ProviderKind) (distinct : kinds.Nodup)
    (real : .null ∉ kinds) (supported : Supported) :
    Converses providers
      (kinds.foldlM (fun supported kind => do
        let answer ← providers.isSupported (← providers.create kind)
        Run.log .debug s!"{kind.name} provider supported: {answer}"
        pure (supported.set kind answer)) supported)
      fun told calls => ∃ able, Asks kinds calls able ∧
        (∀ kind ∈ kinds, told.contains kind = true ↔ kind ∈ able) ∧
        ∀ kind ∉ kinds, told.contains kind = supported.contains kind := by
  induction kinds generalizing supported with
  | nil => exact .pure ⟨[], .nil, by simp, fun _ _ => rfl⟩
  | cons kind rest ih =>
      obtain ⟨new, distinctRest⟩ := List.nodup_cons.mp distinct
      obtain ⟨isReal, realRest⟩ := not_or.mp (List.mem_cons.not.mp real)
      rw [List.foldlM_cons]
      have asked : Converses providers
          (do
            let answer ← providers.isSupported (← providers.create kind)
            Run.log .debug s!"{kind.name} provider supported: {answer}"
            pure (supported.set kind answer))
          fun told calls => ∃ fresh answer,
            calls = [.create kind fresh, .probe fresh answer] ∧ told = supported.set kind answer := by
        refine .bind (.create providers kind) fun fresh calls made => ?_
        subst made
        refine .bind (.isSupported providers fresh) fun answer calls probed => ?_
        subst probed
        exact .log (.pure ⟨fresh, answer, rfl, rfl⟩)
      refine .bind asked ?_
      rintro _ _ ⟨fresh, answer, rfl, rfl⟩
      -- The kinds that are still to be asked are others, so what this one answered stays told.
      refine (ih distinctRest realRest _).mono ?_
      rintro told calls ⟨able, asks, known, others⟩
      have here : told.contains kind = answer := by
        rw [others kind new, Supported.contains_set (Ne.symm isReal), if_pos rfl]
      have elsewhere : ∀ other ∉ kind :: rest, told.contains other = supported.contains other := by
        intro other outside
        obtain ⟨different, notRest⟩ := not_or.mp (List.mem_cons.not.mp outside)
        rw [others other notRest, Supported.contains_set (Ne.symm isReal), if_neg different]
      cases answer with
      | true =>
          refine ⟨kind :: able, .able fresh asks, fun other member => ?_, elsewhere⟩
          rcases List.mem_cons.mp member with rfl | inRest
          · exact iff_of_true here List.mem_cons_self
          · rw [known other inRest, List.mem_cons]
            exact (or_iff_right fun same : other = kind => new (same ▸ inRest)).symm
      | false =>
          refine ⟨able, .unable fresh asks, fun other member => ?_, elsewhere⟩
          rcases List.mem_cons.mp member with rfl | inRest
          · exact iff_of_false (by simp [here]) fun isAble => new (asks.subset isAble)
          · exact known other inRest

theorem converses_probe (environment : Environment) :
    Converses providers (probe providers environment) fun supported calls =>
      ∃ able, Asks (candidateOrder environment.runtime) calls able ∧
        selectProvider .auto environment.runtime supported = able.head?.getD .null := by
  refine (converses_asking providers _ (candidateOrder_nodup _)
    (null_not_mem_candidateOrder _) {}).mono ?_
  rintro supported calls ⟨able, asks, known, -⟩
  refine ⟨able, asks, ?_⟩
  rw [selectProvider, asks.find?_eq_head? (candidateOrder_nodup _) known]

theorem selectProvider_of_kind? {choice : ProviderChoice} {kind : ProviderKind} (runtime : Runtime)
    (supported : Supported) (fixed : choice.kind? = some kind) :
    selectProvider choice runtime supported = kind := by
  cases choice with
  | auto => cases fixed
  | dbus => exact Option.some.inj fixed
  | evdev => exact Option.some.inj fixed

theorem exists_kind?_of_ne_auto {choice : ProviderChoice} (fixed : choice ≠ .auto) :
    ∃ kind, choice.kind? = some kind := by
  cases choice with
  | auto => exact absurd rfl fixed
  | dbus => exact ⟨_, rfl⟩
  | evdev => exact ⟨_, rfl⟩

theorem converses_select (config : HotkeyConfig) (environment : Environment) :
    Converses providers (select providers config environment) fun kind calls =>
      Chooses config environment calls kind := by
  unfold select
  dsimp only
  split_ifs with free
  · refine .bind (converses_probe providers environment) ?_
    rintro supported calls ⟨able, asks, selected⟩
    rw [free, selected]
    refine .log (.pure ?_)
    rw [List.append_nil]
    exact .first free asks
  · obtain ⟨kind, fixed⟩ := exists_kind?_of_ne_auto free
    have unasked : Converses providers (pure {} : Run World Supported) fun _ calls => calls = [] :=
      .pure rfl
    refine .log (.bind unasked fun supported calls none => .log (.pure ?_))
    rw [selectProvider_of_kind? _ _ fixed, none]
    exact .fixed fixed

theorem converses_registerActions (config : HotkeyConfig) (names : List String) (provider : P) :
    Converses providers (registerActions providers config names provider) fun ready calls =>
      Offers config names provider calls ready := by
  induction names generalizing provider with
  | nil => exact .pure (.nil provider)
  | cons name rest ih =>
      unfold registerActions
      dsimp only
      split_ifs with unset
      · exact .log ((ih provider).mono fun ready calls => .unset (by simpa using unset))
      · have bound : config.actionHotkey name ≠ "" := by simpa using unset
        refine .bind (.register providers provider _ _) fun answer calls made => ?_
        subst made
        cases answer with
        | ok next => exact (ih next).mono fun ready calls => .taken bound
        | error cause => exact .log ((ih provider).mono fun ready calls => .refused bound cause)

theorem converses_registerAll (manager : HotkeyManager P κ) (fresh : P) :
    Converses providers (registerAll providers manager fresh) fun answer calls =>
      (∃ cause, answer = .error cause ∧
        calls = [.register fresh manager.config.startRecording .recording (.error cause)]) ∨
      ∃ first ready offered, answer = .ok ready ∧
        calls = .register fresh manager.config.startRecording .recording (.ok first) :: offered ∧
        Offers manager.config manager.actions.names first offered ready := by
  unfold registerAll
  refine .bind (.register providers fresh _ _) fun answer calls made => ?_
  subst made
  cases answer with
  | error cause => exact .pure (.inl ⟨cause, rfl, rfl⟩)
  | ok first =>
      refine .bind (converses_registerActions providers _ _ first) fun ready offered offers => ?_
      refine .pure (.inr ⟨first, ready, offered, rfl, ?_, offers⟩)
      rw [List.append_nil, List.singleton_append]

theorem converses_attempt (manager : HotkeyManager P κ) (kind : ProviderKind) :
    ConversesManaged providers (attempt providers kind) manager fun answer after calls =>
      (∃ running, answer = .ok () ∧
        Attempts manager.config manager.actions.names kind calls (.ok running) ∧
        after = { manager with active := some running, state := .listening kind }) ∨
      ∃ cause state, answer = .error cause ∧
        Attempts manager.config manager.actions.names kind calls (.error cause) ∧
        after = { manager with state } := by
  unfold attempt
  refine .lift (.create providers kind) fun fresh calls made => ?_
  subst made
  refine .get (.lift (converses_registerAll providers manager fresh) ?_)
  rintro answer calls (⟨cause, rfl, rfl⟩ | ⟨first, ready, offered, rfl, rfl, offers⟩)
  · exact .pure (.inr ⟨cause, _, rfl, .refused fresh cause, rfl⟩)
  · refine .modified (.lift (.start providers ready) fun answer calls made => ?_)
    subst made
    cases answer with
    | error cause => exact .pure (.inr ⟨cause, _, rfl, .started fresh offers _, rfl⟩)
    | ok running =>
        exact .modified (.get (.note (.pure (.inl ⟨running, rfl, .started fresh offers _, rfl⟩))))

def started (manager : HotkeyManager P κ) (kinds : List ProviderKind) :
    Except HotkeyError P → HotkeyManager P κ
  | .ok running => { manager with active := some running, state := .listening (kinds.getLastD .null) }
  | .error cause => { manager with state := .failed cause.message }

theorem converses_fail (manager : HotkeyManager P κ) (cause : HotkeyError) :
    ConversesManaged providers (fail cause : Managed World P κ _) manager fun answer after calls =>
      answer = .error cause ∧ after = { manager with state := .failed cause.message } ∧ calls = [] := by
  unfold fail
  exact .modified (.note (.pure ⟨rfl, rfl, rfl⟩))

theorem fallback?_eq_some_iff {manager : HotkeyManager P κ} {primary second : ProviderKind} :
    manager.fallback? primary = some second ↔
      manager.config.provider = .auto ∧ fallbackFor primary manager.environment = some second := by
  unfold fallback?
  split_ifs with free
  · simp [free]
  · simp [free]

theorem fallback?_eq_none_iff {manager : HotkeyManager P κ} {primary : ProviderKind} :
    manager.fallback? primary = none ↔
      manager.config.provider ≠ .auto ∨ fallbackFor primary manager.environment = none := by
  unfold fallback?
  split_ifs with free
  · simp [free]
  · simp [free]

theorem converses_start {manager : HotkeyManager P κ} (inactive : manager.active = none) :
    ConversesManaged providers (start providers) manager fun answer after calls =>
      ∃ kinds final,
        Policy manager.config manager.environment manager.actions.names kinds calls final ∧
        answer = final.map (fun _ => ()) ∧ after = manager.started kinds final := by
  unfold start
  refine .get ?_
  rw [inactive, if_neg (by simp)]
  refine .lift (converses_select providers _ _) fun primary choosing chooses => ?_
  refine .bind (converses_attempt providers manager primary) ?_
  rintro answer _ calls (⟨running, rfl, attempts, rfl⟩ | ⟨cause, state, rfl, attempts, rfl⟩)
  · refine .pure ⟨[primary], .ok running, ?_, rfl, rfl⟩
    rw [List.append_nil]
    exact .success chooses attempts
  -- The first attempt has failed. A second one needs a free choice, another kind, and that it can work.
  refine .note ?_
  cases next : manager.fallback? primary with
  | none =>
      refine (converses_fail providers _ cause).mono ?_
      rintro _ _ _ ⟨rfl, rfl, rfl⟩
      refine ⟨[primary], .error cause, ?_, rfl, rfl⟩
      rw [List.append_nil]
      exact .alone chooses attempts (fallback?_eq_none_iff.mp next)
  | some second =>
      obtain ⟨free, allowed⟩ := fallback?_eq_some_iff.mp next
      refine .lift (.create providers second) fun fresh made created => ?_
      refine .lift (.isSupported providers fresh) fun works asked probed => ?_
      subst created probed
      split_ifs with able
      · subst able
        refine .note (.modified (.bind (converses_attempt providers _ second) ?_))
        rintro answer _ later (⟨running, rfl, again, rfl⟩ | ⟨cause, state, rfl, again, rfl⟩)
        · refine .pure ⟨[primary, second], .ok running, ?_, rfl, rfl⟩
          rw [List.append_nil]
          exact .second chooses attempts free allowed fresh again
        · refine .note ((converses_fail providers _ cause).mono ?_)
          rintro _ _ _ ⟨rfl, rfl, rfl⟩
          refine ⟨[primary, second], .error cause, ?_, rfl, rfl⟩
          rw [List.append_nil]
          exact .second chooses attempts free allowed fresh again
      · rw [Bool.not_eq_true] at able
        subst able
        refine .note ((converses_fail providers _ cause).mono ?_)
        rintro _ _ _ ⟨rfl, rfl, rfl⟩
        exact ⟨[primary], .error cause, .unable chooses attempts free allowed fresh, rfl, rfl⟩

/-- A start of a manager without a provider follows the policy: in all the calls that it makes, in
their order and with whatever answers, in attempting no kind twice, and in answering as the last
attempt does. Afterwards the provider which that attempt started is active, or none is. -/
theorem start_follows_policy (manager : HotkeyManager (Numbered P) κ)
    (inactive : manager.active = none) (world : World) (uses : List NumberedUse) :
    let after := start providers.watched manager { world, uses }
    start providers manager.unwatched world =
      { value := (after.value.1, after.value.2.unwatched)
        world := after.world.world
        log := after.log } ∧
    ∃ kinds calls answer,
      Policy manager.config manager.environment manager.actions.names kinds calls answer ∧
      kinds.Nodup ∧
      Conversation providers.watched { world, uses } calls after.world ∧
      after.world.uses = uses ++ calls.map ProviderCall.use ∧
      after.value.1 = answer.map (fun _ => ()) ∧
      ∀ running, after.value.2.active = some running ↔ answer = .ok running := by
  obtain ⟨calls, conducted, kinds, answer, policy, answered, left⟩ :=
    converses_start providers.watched inactive { world, uses }
  refine ⟨erases_start providers manager { world, uses }, kinds, calls, answer, policy, policy.kinds_nodup,
    conducted, conducted.uses, answered, ?_⟩
  rw [left]
  cases answer with
  | error cause => simp [started, inactive]
  | ok running => simp [started]

deriving instance DecidableEq for Numbered

def portalRefuses : Providers Unit ProviderKind where
  create kind := pure kind
  name := ProviderKind.name
  isSupported _ := pure true
  register provider _ _ := pure (.ok provider)
  start provider := pure (if provider = .portal then .error (.protocol "denied") else .ok provider)
  stop _ := pure ()
  capturesKeys _ := pure false
  capture _ limit := pure (.error (.captureTimeout limit))

def underSway : HotkeyManager (Numbered ProviderKind) Unit where
  config := {}
  environment := { runtime := .system, desktop := "sway" }

/-- Where the portal is preferred and does not start, the keyboards are attempted; theirs is the
fifth provider created. -/
theorem fallback_follows_policy :
    underSway.active = none ∧ ∃ kinds calls, kinds.Nodup ∧
      Policy underSway.config underSway.environment [] kinds calls
        (.ok (Numbered.mk ProviderKind.evdev 4)) := by
  obtain ⟨-, kinds, calls, answer, policy, distinct, -, -, -, active⟩ :=
    start_follows_policy portalRefuses underSway rfl () []
  have begun : (start portalRefuses.watched underSway { world := () }).value.2.active =
      some { provider := .evdev, number := 4 } := by decide +kernel
  obtain rfl := (active _).mp begun
  exact ⟨rfl, kinds, calls, distinct, policy⟩

end HotkeyManager

end GlobalHotkeys
