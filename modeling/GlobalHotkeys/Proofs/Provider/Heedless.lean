import GlobalHotkeys.Proofs.Provider.Lockstep
import GlobalHotkeys.Proofs.Provider.Watched

namespace GlobalHotkeys

variable {World P α β γ δ : Type} {same : World → World → Prop} {like : P → P → Prop}

theorem Agree.mono {like weaker : α → β → Prop} {answer : Except HotkeyError α}
    {other : Except HotkeyError β} (agree : Agree like answer other)
    (imply : ∀ value another, like value another → weaker value another) : Agree weaker answer other := by
  cases agree with
  | ok alike => exact .ok (imply _ _ alike)
  | error cause => exact .error cause

theorem Lockstep.mono {Other : Type} {same : World → Other → Prop} {matching weaker : α → β → Prop}
    {first : Run World α} {second : Run Other β} (lockstep : Lockstep same matching first second)
    (imply : ∀ value other, matching value other → weaker value other) :
    Lockstep same weaker first second :=
  fun now other still => (lockstep now other still).imp_left (imply _ _)

structure Providers.FreshAlike (providers : Providers World P) (same : World → World → Prop)
    (like : P → P → Prop) (provider another : P) : Prop where
  isSupported : Lockstep same Eq (providers.isSupported provider) (providers.isSupported another)
  register : ∀ hotkey, Lockstep same (Agree like) (providers.register provider hotkey .recording)
    (providers.register another hotkey .recording)

/-- Worlds that are the same and providers that are alike differ at most in the hotkeys that actions were
given, and nothing else that is asked of them tells them apart: neither whether a fresh provider can work
or takes the recording hotkey, nor how a start ends. -/
structure Providers.Heedless (providers : Providers World P) (same : World → World → Prop)
    (like : P → P → Prop) : Prop where
  symm : ∀ {now other}, same now other → same other now
  likeSymm : ∀ {provider another}, like provider another → like another provider
  create : ∀ kind, Lockstep same (providers.FreshAlike same like) (providers.create kind)
    (providers.create kind)
  action : ∀ {provider another now other}, like provider another → same now other → ∀ hotkey name,
    let after := providers.register provider hotkey (.action name) now
    same after.world other ∧ ∀ next, after.value = .ok next → like next another
  start : ∀ {provider another}, like provider another →
    Lockstep same (Agree like) (providers.start provider) (providers.start another)

namespace HotkeyProvider

inductive Akin : HotkeyProvider → HotkeyProvider → Prop where
  | portal {first second : PortalProvider Binding} (listening : first.isListening = second.isListening) :
      Akin (portal first) (portal second)
  | evdev {first second : Listener Binding} (listening : first.isListening = second.isListening) :
      Akin (evdev first) (evdev second)
  | null {first second : NullProvider} (listening : first.listening = second.listening) :
      Akin (null first) (null second)

theorem Like.akin {first second : HotkeyProvider} (alike : Like first second) : Akin first second := by
  cases alike with
  | portal _ listening => exact .portal listening
  | evdev _ listening => exact .evdev listening
  | null provider => exact .null rfl

theorem Akin.symm {first second : HotkeyProvider} (akin : Akin first second) : Akin second first := by
  cases akin with
  | portal listening => exact .portal listening.symm
  | evdev listening => exact .evdev listening.symm
  | null listening => exact .null listening.symm

theorem Akin.trans {first second third : HotkeyProvider} (akin : Akin first second)
    (next : Akin second third) : Akin first third := by
  cases akin with
  | portal listening =>
      cases next with
      | portal later => exact .portal (listening.trans later)
  | evdev listening =>
      cases next with
      | evdev later => exact .evdev (listening.trans later)
  | null listening =>
      cases next with
      | null later => exact .null (listening.trans later)

theorem world_register (provider : HotkeyProvider) (hotkey : String) (binding : Binding) (now : World) :
    (provider.register hotkey binding now).world = now := by
  unfold register
  cases provider with
  | portal provider =>
      dsimp only
      generalize provider.register hotkey binding = answer
      cases answer with
      | error cause => rfl
      | ok after =>
          dsimp only
          split_ifs <;> rfl
  | evdev listener =>
      dsimp only
      generalize listener.register hotkey binding = answer
      cases answer <;> rfl
  | null provider => rfl

theorem akin_of_register {provider after : HotkeyProvider} {hotkey : String} {binding : Binding}
    {now : World} (registered : (provider.register hotkey binding now).value = .ok after) :
    Akin after provider := by
  cases provider with
  | portal provider =>
      rw [value_register_portal] at registered
      obtain ⟨next, taken, rfl⟩ := exists_of_map_eq_ok registered
      obtain ⟨_, -, -, rfl⟩ := portal_register_eq_ok_iff.mp taken
      exact .portal rfl
  | evdev listener =>
      rw [value_register_evdev] at registered
      obtain ⟨next, taken, rfl⟩ := exists_of_map_eq_ok registered
      obtain ⟨_, -, -, rfl⟩ := evdev_register_eq_ok_iff.mp taken
      exact .evdev rfl
  | null provider =>
      cases registered
      exact .null rfl

theorem Akin.start {machine : Machine World} (alike : machine.Alike machine same)
    (sessions : ∀ ids others, Lockstep same (Agree fun _ _ => True)
      (Portal.openSession machine.bus ids).run (Portal.openSession machine.bus others).run)
    {first second : HotkeyProvider} (akin : Akin first second) :
    Lockstep same (Agree Akin) (first.start machine) (second.start machine) := by
  cases akin with
  | portal listening =>
      refine (lockstep_start_portal (sessions _ _) listening).bind fun answer other agree => ?_
      cases agree with
      | error cause => exact .pure (.error cause)
      | ok kept => exact .pure (.ok (.portal kept.listening))
  | evdev listening =>
      exact lockstep_startListener alike.openAll listening fun kept => .evdev kept.listening
  | @null first second listening =>
      unfold HotkeyProvider.start NullProvider.start
      dsimp only
      rw [listening]
      cases second.listening with
      | true => exact .pure (.error _)
      | false => exact alike.environment.bind fun _ _ _ => .logged (.pure (.ok (.null rfl)))

end HotkeyProvider

theorem Machine.heedless {machine : Machine World} (alike : machine.Alike machine same)
    (symm : ∀ {now other}, same now other → same other now)
    (sessions : ∀ ids others, Lockstep same (Agree fun _ _ => True)
      (Portal.openSession machine.bus ids).run (Portal.openSession machine.bus others).run) :
    machine.providers.Heedless same HotkeyProvider.Akin where
  symm := symm
  likeSymm := .symm
  create kind := by
    refine .pure ⟨alike.providers.isSupported (.refl _), fun hotkey => ?_⟩
    exact ((HotkeyProvider.Like.refl _).register hotkey .recording).mono fun _ _ agree =>
      agree.mono fun _ _ => HotkeyProvider.Like.akin
  action akin still hotkey name := by
    have registers : machine.providers.register = HotkeyProvider.register := rfl
    simp only [registers, HotkeyProvider.world_register]
    exact ⟨still, fun next taken => (HotkeyProvider.akin_of_register taken).trans akin⟩
  start akin := akin.start alike sessions

def ProviderUse.heeded : ProviderUse → Bool
  | register _ (.action _) _ => false
  | _ => true

/-- What was done with providers, but for the hotkeys of actions that they were offered. -/
def heededUses (uses : List NumberedUse) : List NumberedUse :=
  uses.filter fun use => use.2.heeded

theorem heededUses_append (uses later : List NumberedUse) :
    heededUses (uses ++ later) = heededUses uses ++ heededUses later :=
  List.filter_append _ _

theorem creations_heededUses (uses : List NumberedUse) : creations (heededUses uses) = creations uses := by
  unfold creations heededUses
  rw [List.countP_filter]
  refine List.countP_congr fun use _ => ?_
  obtain ⟨number, use⟩ := use
  cases use <;> simp [ProviderUse.creates, ProviderUse.heeded]

structure Watched.Same (same : World → World → Prop) (now other : Watched World) : Prop where
  world : same now.world other.world
  uses : heededUses now.uses = heededUses other.uses

structure Numbered.Like (like : P → P → Prop) (first second : Numbered P) : Prop where
  provider : like first.provider second.provider
  number : first.number = second.number

theorem lockstep_recorded {matching : α → α → Prop} {ends : β → β → Prop} {step another : Run World α}
    {use : α → ProviderUse} {answer answerToo : α → β} (number : Nat)
    (lockstep : Lockstep same matching step another)
    (told : ∀ value other, matching value other →
      use value = use other ∧ ends (answer value) (answerToo other)) :
    Lockstep (Watched.Same same) ends (recorded number use answer step)
      (recorded number use answerToo another) := by
  intro now other still
  obtain ⟨matched, after⟩ := lockstep now.world other.world still.world
  obtain ⟨sameUse, ended⟩ := told _ _ matched
  refine ⟨ended, after, ?_⟩
  show heededUses (now.uses ++ [(number, use (step now.world).value)]) =
    heededUses (other.uses ++ [(number, use (another other.world).value)])
  rw [heededUses_append, heededUses_append, sameUse, still.uses]

theorem Agree.failure? {like : α → β → Prop} {answer : Except HotkeyError α}
    {other : Except HotkeyError β} (agree : Agree like answer other) :
    GlobalHotkeys.failure? answer = GlobalHotkeys.failure? other := by
  cases agree <;> rfl

theorem Agree.numbered {first second : Numbered P} (number : first.number = second.number)
    {answer other : Except HotkeyError P} (agree : Agree like answer other) :
    Agree (Numbered.Like like) (first.answer answer) (second.answer other) := by
  cases agree with
  | ok alike => exact .ok ⟨alike, number⟩
  | error cause => exact .error cause

theorem Providers.FreshAlike.numbered {providers : Providers World P} {provider another : P}
    (fresh : providers.FreshAlike same like provider another) (number : Nat) :
    providers.watched.FreshAlike (Watched.Same same) (Numbered.Like like) { provider, number }
      { provider := another, number } where
  isSupported := lockstep_recorded number fresh.isSupported fun _ _ answered => ⟨rfl, answered⟩
  register hotkey := lockstep_recorded number (fresh.register hotkey) fun _ _ agree =>
    ⟨congrArg (ProviderUse.register hotkey .recording) agree.failure?, agree.numbered rfl⟩

theorem Providers.Heedless.watched {providers : Providers World P} (heedless : providers.Heedless same like) :
    providers.watched.Heedless (Watched.Same same) (Numbered.Like like) where
  symm still := ⟨heedless.symm still.world, still.uses.symm⟩
  likeSymm alike := ⟨heedless.likeSymm alike.provider, alike.number.symm⟩
  create kind := by
    intro now other still
    have number : creations other.uses = creations now.uses := by
      rw [← creations_heededUses, ← still.uses, creations_heededUses]
    show providers.watched.FreshAlike _ _
        (recorded (creations now.uses) _ _ (providers.create kind) now).value
        (recorded (creations other.uses) _ _ (providers.create kind) other).value ∧
      Watched.Same same (recorded (creations now.uses) _ _ (providers.create kind) now).world
        (recorded (creations other.uses) _ _ (providers.create kind) other).world
    rw [number]
    exact lockstep_recorded (creations now.uses) (heedless.create kind)
      (fun _ _ fresh => ⟨rfl, fresh.numbered _⟩) now other still
  action {provider another now other} alike still hotkey name := by
    obtain ⟨world, after⟩ := heedless.action alike.provider still.world hotkey name
    refine ⟨⟨world, ?_⟩, fun next taken => ?_⟩
    · show heededUses (now.uses ++ [(provider.number, .register hotkey (.action name) _)]) = _
      have unheeded : heededUses [(provider.number, .register hotkey (.action name)
          (failure? (providers.register provider.provider hotkey (.action name) now.world).value))] = [] := rfl
      rw [heededUses_append, unheeded, List.append_nil, still.uses]
    · obtain ⟨ready, answered, rfl⟩ := HotkeyProvider.exists_of_map_eq_ok taken
      exact ⟨after ready answered, alike.number⟩
  start {provider another} alike := by
    show Lockstep _ _ (recorded provider.number _ _ _) (recorded another.number _ _ _)
    rw [← alike.number]
    exact lockstep_recorded provider.number (heedless.start alike.provider) fun _ _ agree =>
      ⟨congrArg ProviderUse.start agree.failure?, agree.numbered alike.number⟩

end GlobalHotkeys
