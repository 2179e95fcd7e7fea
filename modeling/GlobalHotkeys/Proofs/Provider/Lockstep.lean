import GlobalHotkeys.Proofs.Provider.Bindings

namespace GlobalHotkeys

variable {World Other P Q κ α β γ δ : Type} {same : World → Other → Prop}

/-- Begun in worlds that are alike, the steps give answers that match and leave worlds that are alike. -/
def Lockstep (same : World → Other → Prop) (matching : α → β → Prop) (first : Run World α)
    (second : Run Other β) : Prop :=
  ∀ now other, same now other →
    matching (first now).value (second other).value ∧ same (first now).world (second other).world

namespace Lockstep

theorem pure {matching : α → β → Prop} {value : α} {other : β} (matched : matching value other) :
    Lockstep same matching (Pure.pure value) (Pure.pure other) :=
  fun _ _ alike => ⟨matched, alike⟩

theorem bind {between : α → β → Prop} {matching : γ → δ → Prop} {first : Run World α}
    {second : Run Other β} {next : α → Run World γ} {nextOther : β → Run Other δ}
    (begun : Lockstep same between first second)
    (goes : ∀ value other, between value other → Lockstep same matching (next value) (nextOther other)) :
    Lockstep same matching (first >>= next) (second >>= nextOther) := by
  intro now other alike
  obtain ⟨reached, still⟩ := begun now other alike
  exact goes _ _ reached _ _ still

theorem bindSame {matching : γ → δ → Prop} {first : Run World α} {second : Run Other α}
    {next : α → Run World γ} {nextOther : α → Run Other δ} (begun : Lockstep same Eq first second)
    (goes : ∀ value, Lockstep same matching (next value) (nextOther value)) :
    Lockstep same matching (first >>= next) (second >>= nextOther) := by
  refine begun.bind fun value other equal => ?_
  subst equal
  exact goes value

theorem logged {matching : γ → δ → Prop} {lines otherLines : List LogLine} {next : Unit → Run World γ}
    {nextOther : Unit → Run Other δ} (goes : Lockstep same matching (next ()) (nextOther ())) :
    Lockstep same matching (Run.logAll lines >>= next) (Run.logAll otherLines >>= nextOther) :=
  goes

theorem log {matching : γ → δ → Prop} {level : LogLevel} {message otherMessage : String}
    {next : Unit → Run World γ} {nextOther : Unit → Run Other δ}
    (goes : Lockstep same matching (next ()) (nextOther ())) :
    Lockstep same matching (Run.log level message >>= next) (Run.log level otherMessage >>= nextOther) :=
  goes

theorem refl {matching : α → α → Prop} (self : ∀ value, matching value value) (step : Run World α) :
    Lockstep Eq matching step step := by
  rintro now _ rfl
  exact ⟨self _, rfl⟩

end Lockstep

inductive Agree (like : α → β → Prop) : Except HotkeyError α → Except HotkeyError β → Prop where
  | ok {value : α} {other : β} (alike : like value other) : Agree like (.ok value) (.ok other)
  | error (cause : HotkeyError) : Agree like (.error cause) (.error cause)

theorem Agree.refl {like : α → α → Prop} (self : ∀ value, like value value)
    (answer : Except HotkeyError α) : Agree like answer answer := by
  cases answer with
  | ok value => exact .ok (self value)
  | error cause => exact .error cause

structure Machine.Alike (first : Machine World) (second : Machine Other)
    (same : World → Other → Prop) : Prop where
  isSupported : Lockstep same Eq (Portal.isSupported first.bus) (Portal.isSupported second.bus)
  openSession : ∀ ids, Lockstep same (Agree fun _ _ => True) (Portal.openSession first.bus ids).run
    (Portal.openSession second.bus ids).run
  present : Lockstep same Eq first.keyboards.present second.keyboards.present
  openAll : Lockstep same (Agree fun opened others => opened.isEmpty = others.isEmpty)
    first.keyboards.openAll second.keyboards.openAll
  environment : Lockstep same (fun _ _ => True) first.environment second.environment

theorem Machine.Alike.refl (machine : Machine World) : machine.Alike machine Eq where
  isSupported := .refl (fun _ => rfl) _
  openSession _ := .refl (.refl fun _ => trivial) _
  present := .refl (fun _ => rfl) _
  openAll := .refl (.refl fun _ => rfl) _
  environment := .refl (fun _ => trivial) _

structure Providers.Alike (first : Providers World P) (second : Providers Other Q)
    (same : World → Other → Prop) (like : P → Q → Prop) : Prop where
  create : ∀ kind, Lockstep same like (first.create kind) (second.create kind)
  isSupported : ∀ {provider other}, like provider other →
    Lockstep same Eq (first.isSupported provider) (second.isSupported other)
  register : ∀ {provider other}, like provider other → ∀ hotkey binding,
    Lockstep same (Agree like) (first.register provider hotkey binding)
      (second.register other hotkey binding)
  start : ∀ {provider other}, like provider other →
    Lockstep same (Agree like) (first.start provider) (second.start other)

namespace HotkeyProvider

inductive Like : HotkeyProvider → HotkeyProvider → Prop where
  | portal {first second : PortalProvider Binding} (table : first.table = second.table)
      (listening : first.isListening = second.isListening) : Like (portal first) (portal second)
  | evdev {first second : Listener Binding} (table : first.table = second.table)
      (listening : first.isListening = second.isListening) : Like (evdev first) (evdev second)
  | null (provider : NullProvider) : Like (null provider) (null provider)

theorem Like.refl (provider : HotkeyProvider) : Like provider provider := by
  cases provider with
  | portal provider => exact .portal rfl rfl
  | evdev listener => exact .evdev rfl rfl
  | null provider => exact .null provider

theorem Like.bound {first second : HotkeyProvider} (alike : Like first second) :
    first.kind = second.kind ∧ first.bindings = second.bindings := by
  cases alike with
  | portal table listening => exact ⟨rfl, table⟩
  | evdev table listening => exact ⟨rfl, by rw [bindings, table, bindings]⟩
  | null provider => exact ⟨rfl, rfl⟩

theorem agree_register_portal {first second : PortalProvider Binding}
    (table : first.table = second.table) (listening : first.isListening = second.isListening)
    (hotkey : String) (binding : Binding) :
    Agree (fun after other => Like (portal after) (portal other)) (first.register hotkey binding)
      (second.register hotkey binding) := by
  unfold PortalProvider.register PortalProvider.ids
  rw [table]
  dsimp only
  split_ifs
  · exact .error _
  · exact .error _
  · exact .ok (.portal rfl listening)

theorem agree_register_evdev {first second : Listener Binding} (table : first.table = second.table)
    (listening : first.isListening = second.isListening) (hotkey : String) (binding : Binding) :
    Agree (fun after other => Like (evdev after) (evdev other)) (first.register hotkey binding)
      (second.register hotkey binding) := by
  unfold Listener.register Listener.ids
  rw [table]
  cases unusableHotkey? hotkey with
  | some cause => exact .error cause
  | none =>
      dsimp only
      split_ifs
      · exact .error _
      · exact .ok (.evdev rfl listening)

theorem Like.register {first second : HotkeyProvider} (alike : Like first second) (hotkey : String)
    (binding : Binding) :
    Lockstep same (Agree Like) (first.register hotkey binding) (second.register hotkey binding) := by
  unfold HotkeyProvider.register
  cases alike with
  | @portal first second table listening =>
      have answers := agree_register_portal table listening hotkey binding
      dsimp only
      rw [listening]
      generalize first.register hotkey binding = answer at answers ⊢
      generalize second.register hotkey binding = other at answers ⊢
      cases answers with
      | error cause => exact .pure (.error cause)
      | ok alike =>
          dsimp only
          split_ifs
          · exact .log (.pure (.ok alike))
          · exact .pure (.ok alike)
  | @evdev first second table listening =>
      have answers := agree_register_evdev table listening hotkey binding
      dsimp only
      generalize first.register hotkey binding = answer at answers ⊢
      generalize second.register hotkey binding = other at answers ⊢
      cases answers with
      | error cause => exact .pure (.error cause)
      | ok alike => exact .log (.pure (.ok alike))
  | null provider => exact .log (.pure (.ok (.null _)))

structure Kept (listens : α → Bool) (tableOf : α → List β) (first second after other : α) : Prop where
  listening : listens after = listens other
  table : tableOf after = tableOf first
  otherTable : tableOf other = tableOf second

theorem agree_start_evdev {first second : Listener Binding}
    (listening : first.isListening = second.isListening)
    {opened others : Except HotkeyError (List Keyboard)}
    (answers : Agree (fun opened others => opened.isEmpty = others.isEmpty) opened others) :
    Agree (Kept Listener.isListening Listener.table first second) (first.start opened)
      (second.start others) := by
  unfold Listener.start
  rw [listening]
  cases second.isListening with
  | true => exact .error _
  | false =>
      cases answers with
      | error cause => exact .error cause
      | @ok keyboards others empty =>
          simp only [bind, Except.bind, pure, Except.pure, Bool.false_eq_true, if_false]
          rw [empty]
          cases others.isEmpty with
          | true => exact .error _
          | false => exact .ok ⟨rfl, rfl, rfl⟩

theorem run_start_portal (bus : Bus World) {provider : PortalProvider Binding}
    (idle : provider.isListening = false) :
    (provider.start bus).run = (Portal.openSession bus provider.ids).run >>= fun
      | .ok session => pure (.ok { provider with session := some session })
      | .error cause => pure (.error cause) := by
  unfold PortalProvider.start
  rw [idle]
  refine (ExceptT.run_bind _ _).trans (bind_congr fun answer => ?_)
  cases answer with
  | ok session => rfl
  | error cause => rfl

theorem lockstep_start_portal {bus : Bus World} {otherBus : Bus Other}
    {first second : PortalProvider Binding}
    (sessions : Lockstep same (Agree fun _ _ => True) (Portal.openSession bus first.ids).run
      (Portal.openSession otherBus second.ids).run)
    (listening : first.isListening = second.isListening) :
    Lockstep same (Agree (Kept PortalProvider.isListening PortalProvider.table first second))
      (first.start bus).run (second.start otherBus).run := by
  cases occupied : second.isListening with
  | true =>
      intro now other still
      rw [PortalProvider.start_of_listening _ occupied,
        PortalProvider.start_of_listening _ (listening.trans occupied)]
      exact ⟨.error _, still⟩
  | false =>
      rw [run_start_portal _ occupied, run_start_portal _ (listening.trans occupied)]
      refine sessions.bind fun answer other agree => ?_
      cases agree with
      | error cause => exact .pure (.error cause)
      | ok _ => exact .pure (.ok ⟨rfl, rfl, rfl⟩)

theorem lockstep_startListener {keyboards : KeyboardAccess World} {others : KeyboardAccess Other}
    (openAll : Lockstep same (Agree fun opened others => opened.isEmpty = others.isEmpty)
      keyboards.openAll others.openAll)
    {first second : Listener Binding} (listening : first.isListening = second.isListening)
    {like : HotkeyProvider → HotkeyProvider → Prop}
    (kept : ∀ {after other}, Kept Listener.isListening Listener.table first second after other →
      like (evdev after) (evdev other)) :
    Lockstep same (Agree like) (startListener keyboards first) (startListener others second) := by
  unfold startListener
  rw [listening]
  cases second.isListening with
  | true => exact .pure (.error _)
  | false =>
      refine openAll.bind fun opened others agree => ?_
      have answers := agree_start_evdev listening agree
      generalize first.start opened = answer at answers ⊢
      generalize second.start others = other at answers ⊢
      cases answers with
      | error cause => exact .pure (.error cause)
      | ok after => exact .log (.pure (.ok (kept after)))

variable {machine : Machine World} {another : Machine Other}

theorem Like.start (alike : machine.Alike another same) {first second : HotkeyProvider}
    (like : Like first second) :
    Lockstep same (Agree Like) (first.start machine) (second.start another) := by
  cases like with
  | @portal first second table listening =>
      have ids : first.ids = second.ids := congrArg (List.map Prod.fst) table
      have sessions := alike.openSession first.ids
      nth_rewrite 2 [ids] at sessions
      refine (lockstep_start_portal sessions listening).bind fun answer other agree => ?_
      cases agree with
      | error cause => exact .pure (.error cause)
      | ok kept =>
          exact .pure (.ok (.portal (kept.table.trans (table.trans kept.otherTable.symm)) kept.listening))
  | @evdev first second table listening =>
      exact lockstep_startListener alike.openAll listening fun kept =>
        .evdev (kept.table.trans (table.trans kept.otherTable.symm)) kept.listening
  | null provider =>
      unfold HotkeyProvider.start
      dsimp only
      cases provider.start with
      | error cause => exact .pure (.error cause)
      | ok after => exact alike.environment.bind fun _ _ _ => .logged (.pure (.ok (.null after)))

end HotkeyProvider

theorem Machine.Alike.providers {machine : Machine World} {another : Machine Other}
    (alike : machine.Alike another same) :
    machine.providers.Alike another.providers same HotkeyProvider.Like where
  create kind := .pure (.refl (.fresh kind))
  isSupported like := by
    cases like with
    | portal table listening => exact alike.isSupported
    | evdev table listening => exact alike.present
    | null provider => exact .pure rfl
  register like hotkey binding := like.register hotkey binding
  start like := like.start alike

end GlobalHotkeys
