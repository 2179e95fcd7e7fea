import GlobalHotkeys.Manager.Basic
import GlobalHotkeys.Proofs.Provider.Lockstep

namespace GlobalHotkeys

variable {World Other P Q κ α β γ δ : Type} {same : World → Other → Prop} {fresh like : P → Q → Prop}

def LockstepManaged (same : World → Other → Prop) (first : Managed World P κ α)
    (manager : HotkeyManager P κ) (second : Managed Other Q κ β) (other : HotkeyManager Q κ)
    (ends : α → HotkeyManager P κ → β → HotkeyManager Q κ → Prop) : Prop :=
  Lockstep same (fun after later => ends after.1 after.2 later.1 later.2) (first manager) (second other)

namespace LockstepManaged

variable {manager : HotkeyManager P κ} {other : HotkeyManager Q κ}
  {ends : γ → HotkeyManager P κ → δ → HotkeyManager Q κ → Prop}

theorem pure {value : γ} {another : δ} (done : ends value manager another other) :
    LockstepManaged same (Pure.pure value) manager (Pure.pure another) other ends :=
  Lockstep.pure done

theorem bind {first : Managed World P κ α} {second : Managed Other Q κ β}
    {next : α → Managed World P κ γ} {nextOther : β → Managed Other Q κ δ}
    {between : α → HotkeyManager P κ → β → HotkeyManager Q κ → Prop}
    (begun : LockstepManaged same first manager second other between)
    (goes : ∀ value after another later, between value after another later →
      LockstepManaged same (next value) after (nextOther another) later ends) :
    LockstepManaged same (first >>= next) manager (second >>= nextOther) other ends :=
  Lockstep.bind begun fun after later reached => goes after.1 after.2 later.1 later.2 reached

theorem lift {matching : α → β → Prop} {first : Run World α} {second : Run Other β}
    {next : α → Managed World P κ γ} {nextOther : β → Managed Other Q κ δ}
    (begun : Lockstep same matching first second)
    (goes : ∀ value another, matching value another →
      LockstepManaged same (next value) manager (nextOther another) other ends) :
    LockstepManaged same (StateT.lift first >>= next) manager (StateT.lift second >>= nextOther) other
      ends := by
  have lifted : LockstepManaged same (StateT.lift first) manager (StateT.lift second) other
      fun value after another later => matching value another ∧ after = manager ∧ later = other :=
    Lockstep.bind begun fun _ _ matched => Lockstep.pure ⟨matched, rfl, rfl⟩
  refine lifted.bind ?_
  rintro value _ another _ ⟨matched, rfl, rfl⟩
  exact goes value another matched

theorem get {next : HotkeyManager P κ → Managed World P κ γ}
    {nextOther : HotkeyManager Q κ → Managed Other Q κ δ}
    (goes : LockstepManaged same (next manager) manager (nextOther other) other ends) :
    LockstepManaged same (MonadState.get >>= next) manager (MonadState.get >>= nextOther) other ends :=
  goes

theorem modified {update : HotkeyManager P κ → HotkeyManager P κ}
    {updateOther : HotkeyManager Q κ → HotkeyManager Q κ} {next : PUnit → Managed World P κ γ}
    {nextOther : PUnit → Managed Other Q κ δ}
    (goes : LockstepManaged same (next ⟨⟩) (update manager) (nextOther ⟨⟩) (updateOther other) ends) :
    LockstepManaged same (modify update >>= next) manager (modify updateOther >>= nextOther) other ends :=
  goes

theorem note {level : LogLevel} {message otherMessage : String} {next : Unit → Managed World P κ γ}
    {nextOther : Unit → Managed Other Q κ δ}
    (goes : LockstepManaged same (next ()) manager (nextOther ()) other ends) :
    LockstepManaged same (HotkeyManager.note level message >>= next) manager
      (HotkeyManager.note level otherMessage >>= nextOther) other ends :=
  goes

end LockstepManaged

namespace HotkeyManager

def Beside (like : P → Q → Prop) (manager : HotkeyManager P κ) (other : HotkeyManager Q κ)
    (after : HotkeyManager P κ) (later : HotkeyManager Q κ) : Prop :=
  ∃ active running state otherState, Option.Rel like active running ∧
    after = { manager with active, state } ∧
    later = { other with active := running, state := otherState }

section Beside

variable {manager after last : HotkeyManager P κ} {other later ending : HotkeyManager Q κ}

theorem Beside.refl (active : Option.Rel like manager.active other.active) :
    Beside like manager other manager other :=
  ⟨_, _, _, _, active, rfl, rfl⟩

theorem Beside.trans (first : Beside like manager other after later)
    (second : Beside like after later last ending) : Beside like manager other last ending := by
  obtain ⟨_, _, _, _, -, rfl, rfl⟩ := first
  obtain ⟨_, _, _, _, active, rfl, rfl⟩ := second
  exact ⟨_, _, _, _, active, rfl, rfl⟩

theorem Beside.active (beside : Beside like manager other after later) :
    Option.Rel like after.active later.active := by
  obtain ⟨_, _, _, _, active, rfl, rfl⟩ := beside
  exact active

theorem Beside.withState (beside : Beside like manager other after later)
    (state otherState : ManagerState) :
    Beside like manager other { after with state } { later with state := otherState } := by
  obtain ⟨_, _, _, _, active, rfl, rfl⟩ := beside
  exact ⟨_, _, _, _, active, rfl, rfl⟩

end Beside

structure Parallel (providers : Providers World P) (others : Providers Other Q)
    (same : World → Other → Prop) (fresh like : P → Q → Prop) (manager : HotkeyManager P κ)
    (other : HotkeyManager Q κ) : Prop where
  choice : manager.config.provider = other.config.provider
  environment : manager.environment = other.environment
  create : ∀ kind, Lockstep same fresh (providers.create kind) (others.create kind)
  isSupported : ∀ {provider another}, fresh provider another →
    Lockstep same Eq (providers.isSupported provider) (others.isSupported another)
  equip : ∀ {provider another}, fresh provider another →
    Lockstep same (Agree like) (registerAll providers manager provider)
      (registerAll others other another)
  start : ∀ {provider another}, like provider another →
    Lockstep same (Agree like) (providers.start provider) (others.start another)

namespace Parallel

variable {providers : Providers World P} {others : Providers Other Q} {manager after : HotkeyManager P κ}
  {other later : HotkeyManager Q κ} (parallel : Parallel providers others same fresh like manager other)

include parallel

theorem beside (beside : Beside like manager other after later) :
    Parallel providers others same fresh like after later := by
  obtain ⟨_, _, _, _, -, rfl, rfl⟩ := beside
  exact ⟨parallel.choice, parallel.environment, parallel.create, parallel.isSupported, parallel.equip,
    parallel.start⟩

theorem lockstep_probe (environment : Environment) :
    Lockstep same Eq (probe providers environment) (probe others environment) := by
  unfold probe
  generalize candidateOrder environment.runtime = kinds
  generalize ({} : Supported) = supported
  induction kinds generalizing supported with
  | nil => exact .pure rfl
  | cons kind rest ih =>
      rw [List.foldlM_cons, List.foldlM_cons]
      refine .bindSame ?_ ih
      refine (parallel.create kind).bind fun provider other fresh => ?_
      exact .bindSame (parallel.isSupported fresh) fun answer => .log (.pure rfl)

theorem lockstep_select :
    Lockstep same Eq (select providers manager.config manager.environment)
      (select others other.config other.environment) := by
  unfold select
  dsimp only
  rw [parallel.choice, parallel.environment]
  split_ifs with free
  · exact .bindSame (parallel.lockstep_probe other.environment) fun supported => .log (.pure rfl)
  · exact .log (.bindSame (.pure rfl) fun supported => .log (.pure rfl))

theorem lockstep_attempt (active : Option.Rel like manager.active other.active) (kind : ProviderKind) :
    LockstepManaged same (attempt providers kind) manager (attempt others kind) other
      fun answer after another later => answer = another ∧ Beside like manager other after later ∧
        (answer = .ok () → after.state = later.state) := by
  unfold attempt
  refine .lift (parallel.create kind) fun provider another fresh => .get ?_
  refine .lift (parallel.equip fresh) fun answer _ agree => ?_
  cases agree with
  -- The state after a failure is left open: the start sets it anew, whether it falls back or fails.
  | error cause => exact .pure ⟨rfl, .refl active, nofun⟩
  | ok ready =>
      refine .modified (.lift (parallel.start ready) fun answer _ agree => ?_)
      cases agree with
      | error cause => exact .pure ⟨rfl, (Beside.refl active).withState _ _, nofun⟩
      | ok running =>
          exact .modified (.get (.note (.pure ⟨rfl, ⟨_, _, _, _, .some running, rfl, rfl⟩, fun _ => rfl⟩)))

omit parallel in
theorem lockstep_fail (tried : Beside like manager other after later) (cause : HotkeyError) :
    LockstepManaged same (fail cause : Managed World P κ _) after (fail cause : Managed Other Q κ _)
      later fun answer last another ending => answer = another ∧ Beside like manager other last ending ∧
        last.state = ending.state := by
  unfold fail
  exact .modified (.note (.pure ⟨rfl, tried.withState _ _, rfl⟩))

theorem lockstep_start (inactive : manager.active = none) (inactiveToo : other.active = none) :
    LockstepManaged same (HotkeyManager.start providers) manager (HotkeyManager.start others) other
      fun answer after another later => answer = another ∧ Beside like manager other after later ∧
        after.state = later.state := by
  have idle : Option.Rel like manager.active other.active := by
    rw [inactive, inactiveToo]
    exact .none
  unfold HotkeyManager.start
  refine .get ?_
  rw [inactive, if_neg (by simp), inactiveToo, if_neg (by simp)]
  refine .lift parallel.lockstep_select ?_
  rintro primary _ rfl
  refine .bind (parallel.lockstep_attempt idle primary) ?_
  rintro answer after _ later ⟨rfl, tried, settled⟩
  cases answer with
  | ok _ => exact .pure ⟨rfl, tried, settled rfl⟩
  | error cause =>
      have next : other.fallback? primary = manager.fallback? primary := by
        unfold fallback?
        rw [parallel.choice, parallel.environment]
      refine .note ?_
      rw [next]
      cases manager.fallback? primary with
      | none => exact lockstep_fail tried cause
      | some second =>
          refine .lift (parallel.create second) fun provider another fresh => ?_
          refine .lift (parallel.isSupported fresh) ?_
          rintro works _ rfl
          split_ifs with able
          · have falling := tried.withState (.fallbackAttempted primary second)
              (.fallbackAttempted primary second)
            refine .note (.modified ?_)
            refine .bind ((parallel.beside falling).lockstep_attempt falling.active second) ?_
            rintro answer again _ last ⟨rfl, triedAgain, settled⟩
            cases answer with
            | ok _ => exact .pure ⟨rfl, falling.trans triedAgain, settled rfl⟩
            | error cause => exact .note (lockstep_fail (falling.trans triedAgain) cause)
          · exact .note (lockstep_fail tried cause)

end Parallel

structure Matches (like : P → Q → Prop) (manager : HotkeyManager P κ) (other : HotkeyManager Q κ) :
    Prop where
  config : manager.config = other.config
  environment : manager.environment = other.environment
  actions : manager.actions.names = other.actions.names
  active : Option.Rel like manager.active other.active

theorem Matches.beside {manager after : HotkeyManager P κ} {other later : HotkeyManager Q κ}
    (matched : manager.Matches like other) (beside : Beside like manager other after later) :
    after.Matches like later := by
  obtain ⟨_, _, _, _, active, rfl, rfl⟩ := beside
  exact ⟨matched.config, matched.environment, matched.actions, active⟩

section Alike

variable {providers : Providers World P} {others : Providers Other Q}
  (alike : providers.Alike others same like)

include alike

theorem lockstep_registerActions (config : HotkeyConfig) (names : List String) {provider : P} {other : Q}
    (fresh : like provider other) :
    Lockstep same like (registerActions providers config names provider)
      (registerActions others config names other) := by
  induction names generalizing provider other with
  | nil => exact .pure fresh
  | cons name rest ih =>
      unfold registerActions
      dsimp only
      split_ifs with unset
      · exact .log (ih fresh)
      · refine (alike.register fresh _ _).bind fun answer another agree => ?_
        cases agree with
        | ok taken => exact ih taken
        | error cause => exact .log (ih fresh)

variable {manager : HotkeyManager P κ} {other : HotkeyManager Q κ}

theorem lockstep_registerAll (matched : manager.Matches like other) {provider : P} {another : Q}
    (fresh : like provider another) :
    Lockstep same (Agree like) (registerAll providers manager provider)
      (registerAll others other another) := by
  unfold registerAll
  rw [matched.config, matched.actions]
  refine (alike.register fresh _ _).bind fun answer _ agree => ?_
  cases agree with
  | error cause => exact .pure (.error cause)
  | ok taken =>
      exact (lockstep_registerActions alike _ _ taken).bind fun _ _ ready => .pure (.ok ready)

theorem Matches.parallel (matched : manager.Matches like other) :
    Parallel providers others same like like manager other where
  choice := congrArg HotkeyConfig.provider matched.config
  environment := matched.environment
  create := alike.create
  isSupported := alike.isSupported
  equip := lockstep_registerAll alike matched
  start := alike.start

theorem lockstep_start (inactive : manager.active = none) (matched : manager.Matches like other) :
    LockstepManaged same (start providers) manager (start others) other
      fun answer after another later => answer = another ∧ after.Matches like later ∧
        after.state = later.state := by
  have inactiveToo : other.active = none := by
    have active := matched.active
    rw [inactive] at active
    generalize other.active = running at active ⊢
    cases active
    rfl
  intro now moment still
  obtain ⟨⟨answer, beside, state⟩, after⟩ :=
    (matched.parallel alike).lockstep_start inactive inactiveToo now moment still
  exact ⟨⟨answer, matched.beside beside, state⟩, after⟩

end Alike

end HotkeyManager

end GlobalHotkeys
