import GlobalHotkeys.Proofs.Provider.Calls

namespace GlobalHotkeys

variable {World P κ : Type} (providers : Providers World P) {uses : List NumberedUse}
  {manager : HotkeyManager (Numbered P) κ}

structure Serving (manager : HotkeyManager (Numbered P) κ) (uses : List NumberedUse) : Prop where
  intro ::
  orderly : Orderly uses
  serves : ∃ provider kind, manager.active = some provider ∧ manager.state = .listening kind ∧
    (provider.number, .create kind) ∈ uses ∧ Usable uses provider.number ∧
    ∀ other, Running uses other ↔ other = provider.number

structure Resting (manager : HotkeyManager (Numbered P) κ) (uses : List NumberedUse) : Prop where
  orderly : Orderly uses
  idle : ∀ other, ¬ Running uses other
  inactive : manager.active = none

theorem Resting.calm {after : List NumberedUse} (resting : Resting manager uses)
    (calm : Calm uses after) : Resting manager after :=
  ⟨calm.orderly, fun other runs => resting.idle other (calm.running_iff.mp runs), resting.inactive⟩

theorem Serving.calm {after : List NumberedUse} (serving : Serving manager uses)
    (calm : Calm uses after) : Serving manager after := by
  obtain ⟨provider, kind, active, state, created, usable, only⟩ := serving.serves
  exact ⟨calm.orderly, provider, kind, active, state, calm.kept created, calm.usable usable,
    fun other => calm.running_iff.trans (only other)⟩

namespace HotkeyManager

theorem leads_probe (orderly : Orderly uses) (environment : Environment) :
    Leads (probe providers.watched environment) uses fun _ after => Calm uses after := by
  unfold probe
  generalize candidateOrder environment.runtime = kinds
  generalize ({} : Supported) = supported
  induction kinds generalizing supported uses with
  | nil => exact .pure (.refl orderly)
  | cons kind rest ih =>
      rw [List.foldlM_cons]
      have asked : Leads
          (do
            let answer ← providers.watched.isSupported (← providers.watched.create kind)
            Run.log .debug s!"{kind.name} provider supported: {answer}"
            pure (supported.set kind answer)) uses fun _ after => Calm uses after := by
        refine .bind (calls_create providers orderly kind) fun fresh created made => ?_
        obtain ⟨calm, ready, -⟩ := made
        refine .bind (calls_isSupported providers calm.orderly ready.1) fun answer after again => ?_
        exact .log (.pure (calm.trans again))
      refine .bind asked fun supported after calm => ?_
      exact (ih calm.orderly supported).mono fun _ _ => calm.trans

theorem leads_select (orderly : Orderly uses) (config : HotkeyConfig) (environment : Environment) :
    Leads (select providers.watched config environment) uses fun _ after => Calm uses after := by
  unfold select
  dsimp only
  split_ifs with free
  · refine .bind (leads_probe providers orderly environment) fun supported after calm => ?_
    exact .log (.pure calm)
  · have unasked : Leads (pure {} : Run (Watched World) Supported) uses fun _ after =>
        Calm uses after := .pure (.refl orderly)
    exact .log (.bind unasked fun supported after calm => .log (.pure calm))

theorem leads_registerActions (orderly : Orderly uses) (config : HotkeyConfig) (names : List String)
    {numbered : Numbered P} (usable : Usable uses numbered.number) :
    Leads (registerActions providers.watched config names numbered) uses fun ready after =>
      Calm uses after ∧ ready.number = numbered.number := by
  induction names generalizing numbered uses with
  | nil => exact .pure ⟨.refl orderly, rfl⟩
  | cons name rest ih =>
      unfold registerActions
      dsimp only
      split_ifs with unset
      · exact .log (ih orderly usable)
      · refine .bind (calls_register providers orderly usable _ _) fun answer after taken => ?_
        obtain ⟨calm, same⟩ := taken
        cases answer with
        | ok ready =>
            have number := same ready rfl
            refine (ih calm.orderly (number ▸ calm.usable usable)).mono fun last later done => ?_
            exact ⟨calm.trans done.1, done.2.trans number⟩
        | error cause =>
            refine .log ((ih calm.orderly (calm.usable usable)).mono fun last later done => ?_)
            exact ⟨calm.trans done.1, done.2⟩

theorem leads_registerAll (orderly : Orderly uses) {numbered : Numbered P}
    (usable : Usable uses numbered.number) :
    Leads (registerAll providers.watched manager numbered) uses fun answer after =>
      Calm uses after ∧ ∀ ready, answer = .ok ready → ready.number = numbered.number := by
  unfold registerAll
  refine .bind (calls_register providers orderly usable _ _) fun answer after taken => ?_
  obtain ⟨calm, same⟩ := taken
  cases answer with
  | error cause => exact .pure ⟨calm, fun _ taken => nomatch taken⟩
  | ok ready =>
      have number := same ready rfl
      have kept : Usable after ready.number := number ▸ calm.usable usable
      refine .bind (leads_registerActions providers calm.orderly _ _ kept) fun last later done => ?_
      refine .pure ⟨calm.trans done.1, fun other taken => ?_⟩
      cases taken
      exact done.2.trans number

theorem leads_attempt (resting : Resting manager uses) (kind : ProviderKind) :
    LeadsManaged (attempt providers.watched kind) manager uses fun answer manager after =>
      match answer with
      | .ok _ => Serving manager after
      | .error _ => Resting manager after := by
  unfold attempt
  refine .lift (calls_create providers resting.orderly kind) fun fresh made created => ?_
  obtain ⟨calm, ready, record⟩ := created
  refine .get (.lift (leads_registerAll providers calm.orderly ready.1) fun answer after taken => ?_)
  obtain ⟨again, same⟩ := taken
  -- Taking hotkeys starts and stops nothing: still none runs, and the new provider is unstarted.
  have resting := resting.calm (calm.trans again)
  cases answer with
  | error cause => exact .pure resting
  | ok complete =>
      have number := same complete rfl
      have ready : Ready after complete.number := number ▸ again.ready ready
      refine .modified (.lift (calls_start providers resting.orderly ready resting.idle) fun answer ended outcome => ?_)
      obtain ⟨orderly, kept, outcome⟩ := outcome
      cases answer with
      | error cause => exact .pure ⟨orderly, outcome, resting.inactive⟩
      | ok running =>
          obtain ⟨same, usable, only⟩ := outcome
          have created : (running.number, .create kind) ∈ ended := by
            rw [same, number]
            exact kept (again.kept record)
          refine .modified (.get (.note (.pure ?_)))
          exact ⟨orderly, running, kind, rfl, rfl, created, usable, only⟩

def Settled (answer : Except HotkeyError Unit) (manager : HotkeyManager (Numbered P) κ)
    (uses : List NumberedUse) : Prop :=
  match answer with
  | .ok _ => Serving manager uses
  | .error cause => Resting manager uses ∧ manager.state = .failed cause.message

theorem leads_fail (resting : Resting manager uses) (cause : HotkeyError) :
    LeadsManaged (fail cause : Managed (Watched World) (Numbered P) κ _) manager uses Settled := by
  unfold fail
  exact .modified (.note (.pure ⟨⟨resting.orderly, resting.idle, resting.inactive⟩, rfl⟩))

theorem leads_start (resting : Resting manager uses) :
    LeadsManaged (start providers.watched) manager uses Settled := by
  unfold start
  refine .get ?_
  rw [resting.inactive, if_neg (by simp)]
  refine .lift (leads_select providers resting.orderly _ _) fun primary chosen calm => ?_
  refine .bind (leads_attempt providers (resting.calm calm) primary) fun answer manager tried left => ?_
  cases answer with
  | ok _ => exact .pure left
  | error cause =>
      refine .note ?_
      split
      · exact leads_fail left cause
      · next second found =>
          refine .lift (calls_create providers left.orderly second) fun fresh made created => ?_
          obtain ⟨calm, ready, -⟩ := created
          refine .lift (calls_isSupported providers calm.orderly ready.1) fun works asked again => ?_
          have left : Resting manager asked := left.calm (calm.trans again)
          split_ifs with able
          · refine .note (.modified ?_)
            have left : Resting { manager with state := .fallbackAttempted primary second } asked :=
              ⟨left.orderly, left.idle, left.inactive⟩
            refine .bind (leads_attempt providers left second) fun answer manager tried left => ?_
            cases answer with
            | ok _ => exact .pure left
            | error cause => exact .note (leads_fail left cause)
          · exact .note (leads_fail left cause)

theorem leads_stop_of_serving (serving : Serving manager uses) :
    LeadsManaged (stop providers.watched) manager uses fun _ manager after =>
      Resting manager after ∧ manager.state = .stopped := by
  obtain ⟨provider, kind, active, -, -, usable, only⟩ := serving.serves
  unfold stop
  refine .get ?_
  rw [active]
  refine .lift (calls_stop providers serving.orderly usable only) fun _ after stopped => ?_
  refine .modified ?_
  exact fun _ => ⟨⟨stopped.1, stopped.2, rfl⟩, rfl⟩

theorem leads_stop_of_resting (resting : Resting manager uses) :
    LeadsManaged (stop providers.watched) manager uses fun _ later after =>
      later = manager ∧ after = uses := by
  unfold stop
  refine .get ?_
  rw [resting.inactive]
  exact .pure ⟨rfl, rfl⟩

def Rested (lastStart : Option (Except HotkeyError Unit)) : ManagerState → Prop
  | .uninitialized | .stopped => True
  | .failed reason => ∃ cause, lastStart = some (.error cause) ∧ reason = cause.message
  | _ => False

inductive Tended (lastStart : Option (Except HotkeyError Unit)) (manager : HotkeyManager (Numbered P) κ)
    (uses : List NumberedUse) : Prop where
  | serving (serving : Serving manager uses)
  | resting (resting : Resting manager uses) (rested : Rested lastStart manager.state)

variable {lastStart : Option (Except HotkeyError Unit)}

theorem Tended.orderly (tended : Tended lastStart manager uses) : Orderly uses := by
  cases tended with
  | serving serving => exact serving.orderly
  | resting resting rested => exact resting.orderly

theorem Tended.calm {after : List NumberedUse} (tended : Tended lastStart manager uses)
    (calm : Calm uses after) : Tended lastStart manager after := by
  cases tended with
  | serving serving => exact .serving (serving.calm calm)
  | resting resting rested => exact .resting (resting.calm calm) rested

theorem Tended.congr {other : HotkeyManager (Numbered P) κ} (tended : Tended lastStart manager uses)
    (active : other.active = manager.active) (state : other.state = manager.state) :
    Tended lastStart other uses := by
  cases tended with
  | serving serving =>
      refine .serving ⟨serving.orderly, ?_⟩
      rw [active, state]
      exact serving.serves
  | resting resting rested =>
      exact .resting ⟨resting.orderly, resting.idle, active.trans resting.inactive⟩ (state ▸ rested)

theorem Tended.state_cases (tended : Tended lastStart manager uses) :
    (∃ kind, manager.state = .listening kind) ∨ Rested lastStart manager.state := by
  cases tended with
  | serving serving =>
      obtain ⟨provider, kind, -, state, -⟩ := serving.serves
      exact .inl ⟨kind, state⟩
  | resting resting rested => exact .inr rested

theorem Tended.state_ne_providerSelected (tended : Tended lastStart manager uses)
    (kind : ProviderKind) : manager.state ≠ .providerSelected kind := by
  intro passing
  have cases := tended.state_cases
  simp [passing, Rested] at cases

theorem Tended.state_ne_fallbackAttempted (tended : Tended lastStart manager uses)
    (first second : ProviderKind) : manager.state ≠ .fallbackAttempted first second := by
  intro passing
  have cases := tended.state_cases
  simp [passing, Rested] at cases

theorem Tended.failed (tended : Tended lastStart manager uses) {reason : String}
    (state : manager.state = .failed reason) :
    ∃ cause, lastStart = some (.error cause) ∧ reason = cause.message := by
  have cases := tended.state_cases
  simpa [state, Rested] using cases

theorem Tended.active_iff (tended : Tended lastStart manager uses) :
    manager.active.isSome = true ↔ ∃ kind, manager.state = .listening kind := by
  cases tended with
  | serving serving =>
      obtain ⟨provider, kind, active, state, -⟩ := serving.serves
      rw [active]
      exact iff_of_true rfl ⟨kind, state⟩
  | resting resting rested =>
      rw [resting.inactive]
      refine iff_of_false (by simp) ?_
      rintro ⟨kind, listening⟩
      rw [listening] at rested
      exact rested

theorem Tended.listening_iff (tended : Tended lastStart manager uses) (kind : ProviderKind) :
    manager.state = .listening kind ↔ ∃ provider, manager.active = some provider ∧
      (provider.number, .create kind) ∈ uses := by
  cases tended with
  | serving serving =>
      obtain ⟨provider, actual, active, state, created, -⟩ := serving.serves
      rw [state, active, ManagerState.listening.injEq]
      constructor
      · rintro rfl
        exact ⟨provider, rfl, created⟩
      · rintro ⟨other, same, record⟩
        obtain rfl := Option.some.inj same
        exact serving.orderly.create_unique created record
  | resting resting rested =>
      rw [resting.inactive]
      refine iff_of_false (fun listening => ?_) (by simp)
      rw [listening] at rested
      exact rested

theorem Tended.running_iff (tended : Tended lastStart manager uses) (number : Nat) :
    Running uses number ↔ ∃ provider, manager.active = some provider ∧
      provider.number = number := by
  cases tended with
  | serving serving =>
      obtain ⟨provider, kind, active, -, -, -, only⟩ := serving.serves
      rw [only, active]
      constructor
      · rintro rfl
        exact ⟨provider, rfl, rfl⟩
      · rintro ⟨other, same, rfl⟩
        rw [Option.some.inj same]
  | resting resting rested =>
      rw [resting.inactive]
      exact iff_of_false (resting.idle number) (by simp)

theorem Settled.tended {answer : Except HotkeyError Unit} (settled : Settled answer manager uses) :
    Tended (some answer) manager uses := by
  cases answer with
  | ok _ => exact .serving settled
  | error cause =>
      refine .resting settled.1 ?_
      rw [settled.2]
      exact ⟨cause, rfl, rfl⟩

theorem leads_stop (tended : Tended lastStart manager uses) :
    LeadsManaged (stop providers.watched) manager uses fun _ manager after =>
      Resting manager after ∧ Rested lastStart manager.state := by
  cases tended with
  | serving serving =>
      refine (leads_stop_of_serving providers serving).mono fun _ manager after stopped => ?_
      rw [stopped.2]
      exact ⟨stopped.1, trivial⟩
  | resting resting rested =>
      refine (leads_stop_of_resting providers resting).mono ?_
      rintro _ _ _ ⟨rfl, rfl⟩
      exact ⟨resting, rested⟩

theorem leads_reload (tended : Tended lastStart manager uses) (config : HotkeyConfig) :
    LeadsManaged (reload providers.watched config) manager uses Settled := by
  unfold reload
  refine .note (.bind (leads_stop providers tended) fun _ manager after stopped => .modified ?_)
  exact leads_start providers ⟨stopped.1.orderly, stopped.1.idle, stopped.1.inactive⟩

theorem leads_addAction (tended : Tended lastStart manager uses) (name : String) (callback : κ) :
    LeadsManaged (addAction providers.watched name callback) manager uses fun _ manager after =>
      Tended lastStart manager after := by
  unfold addAction
  refine .get ?_
  by_cases known : manager.actions.contains name = true
  · rw [if_pos known]
    exact .pure tended
  rw [if_neg known]
  dsimp only
  cases tended with
  | resting resting rested =>
      rw [resting.inactive]
      exact .modified (.pure (.resting ⟨resting.orderly, resting.idle, resting.inactive⟩ rested))
  | serving serving =>
      obtain ⟨provider, kind, active, state, created, usable, only⟩ := serving.serves
      rw [active]
      dsimp only
      split_ifs with bound
      · refine .lift (calls_register providers serving.orderly usable _ _) fun answer after taken => ?_
        obtain ⟨calm, same⟩ := taken
        cases answer with
        | error cause => exact .pure (.serving (serving.calm calm))
        | ok ready =>
            have number := same ready rfl
            refine .set (.modified (.pure (.serving ⟨calm.orderly, ready, kind, rfl, state, ?_⟩)))
            rw [number]
            exact ⟨calm.kept created, calm.usable usable,
              fun other => calm.running_iff.trans (only other)⟩
      · exact .modified (.pure ((Tended.serving serving).congr rfl rfl))

theorem leads_capturingProvider? (tended : Tended lastStart manager uses) :
    Leads (capturingProvider? providers.watched manager) uses fun native after =>
      Calm uses after ∧ ∀ provider, native = some provider → Usable after provider.number := by
  unfold capturingProvider?
  cases tended with
  | resting resting rested =>
      rw [resting.inactive]
      exact .pure ⟨.refl resting.orderly, fun _ taken => nomatch taken⟩
  | serving serving =>
      obtain ⟨provider, kind, active, -, -, usable, -⟩ := serving.serves
      rw [active]
      refine .bind (calls_capturesKeys providers serving.orderly usable) fun able after calm => ?_
      split_ifs
      · refine .pure ⟨calm, fun other taken => ?_⟩
        cases taken
        exact calm.usable usable
      · exact .pure ⟨calm, fun _ taken => nomatch taken⟩

theorem leads_capture (tended : Tended lastStart manager uses) (limit : Duration) :
    Leads (capture providers.watched manager limit) uses fun _ after => Calm uses after := by
  unfold capture
  refine .bind (leads_capturingProvider? providers tended) fun native after asked => ?_
  obtain ⟨calm, usable⟩ := asked
  cases native with
  | some provider =>
      exact (calls_capture providers calm.orderly (usable provider rfl) limit).mono
        fun _ _ => calm.trans
  | none =>
      split_ifs with sandboxed
      · exact .pure calm
      · refine .log (.bind (calls_create providers calm.orderly .evdev) fun fresh made created => ?_)
        obtain ⟨again, ready, -⟩ := created
        exact (calls_capture providers again.orderly ready.1 limit).mono
          fun _ _ last => calm.trans (again.trans last)

end HotkeyManager

end GlobalHotkeys
