import GlobalHotkeys.Proofs.Provider.Watched

namespace GlobalHotkeys

variable {World P κ α β : Type}

inductive ProviderCall (P : Type) where
  | create (kind : ProviderKind) (fresh : P)
  | probe (provider : P) (answer : Bool)
  | register (provider : P) (hotkey : String) (binding : Binding) (answer : Except HotkeyError P)
  | start (provider : P) (answer : Except HotkeyError P)
  | stop (provider : P)
  | askCapture (provider : P) (answer : Bool)
  | capture (provider : P) (limit : Duration) (answer : Except HotkeyError String)

def Run.Answers (step : Run World α) (before : World) (answer : α) (after : World) : Prop :=
  (step before).value = answer ∧ (step before).world = after

namespace ProviderCall

def Happens (providers : Providers World P) (before after : World) : ProviderCall P → Prop
  | create kind fresh => (providers.create kind).Answers before fresh after
  | probe provider answer => (providers.isSupported provider).Answers before answer after
  | register provider hotkey binding answer =>
    (providers.register provider hotkey binding).Answers before answer after
  | start provider answer => (providers.start provider).Answers before answer after
  | stop provider => (providers.stop provider).Answers before () after
  | askCapture provider answer => (providers.capturesKeys provider).Answers before answer after
  | capture provider limit answer => (providers.capture provider limit).Answers before answer after

def use : ProviderCall (Numbered P) → NumberedUse
  | create kind fresh => (fresh.number, .create kind)
  | probe provider _ => (provider.number, .probe)
  | register provider hotkey binding answer =>
    (provider.number, .register hotkey binding (failure? answer))
  | start provider answer => (provider.number, .start (failure? answer))
  | stop provider => (provider.number, .stop)
  | askCapture provider _ => (provider.number, .askCapture)
  | capture provider _ _ => (provider.number, .capture)

end ProviderCall

/-- Made one after the other from the world `before` on, the calls have these answers and leave the
world `after`. -/
inductive Conversation (providers : Providers World P) :
    (before : World) → List (ProviderCall P) → (after : World) → Prop where
  | nil (world : World) : Conversation providers world [] world
  | cons {before between after : World} {call : ProviderCall P} {rest : List (ProviderCall P)}
      (happens : call.Happens providers before between)
      (later : Conversation providers between rest after) :
      Conversation providers before (call :: rest) after

namespace Conversation

theorem append {providers : Providers World P} {before between after : World}
    {calls rest : List (ProviderCall P)} (first : Conversation providers before calls between)
    (second : Conversation providers between rest after) :
    Conversation providers before (calls ++ rest) after := by
  induction first with
  | nil world => exact second
  | cons happens later ih => exact .cons happens (ih second)

theorem happens_of_mem {providers : Providers World P} {before after : World}
    {calls : List (ProviderCall P)} (conversation : Conversation providers before calls after)
    {call : ProviderCall P} (member : call ∈ calls) :
    ∃ earlier later, call.Happens providers earlier later := by
  induction conversation with
  | nil world => cases member
  | cons happens later ih =>
      rcases List.mem_cons.mp member with rfl | inRest
      · exact ⟨_, _, happens⟩
      · exact ih inRest

end Conversation

theorem failure?_answer (numbered : Numbered P) (answer : Except HotkeyError P) :
    failure? (numbered.answer answer) = failure? answer := by
  cases answer <;> rfl

theorem ProviderCall.Happens.uses {providers : Providers World P} {before after : Watched World}
    {call : ProviderCall (Numbered P)} (happens : call.Happens providers.watched before after) :
    after.uses = before.uses ++ [call.use] := by
  cases call with
  | register provider hotkey binding answer =>
      obtain ⟨rfl, rfl⟩ := happens
      exact congrArg (fun failed => before.uses ++ [(provider.number, .register hotkey binding failed)])
        (failure?_answer provider _).symm
  | start provider answer =>
      obtain ⟨rfl, rfl⟩ := happens
      exact congrArg (fun failed => before.uses ++ [(provider.number, .start failed)])
        (failure?_answer provider _).symm
  | create kind fresh =>
      obtain ⟨rfl, rfl⟩ := happens
      rfl
  | _ =>
      obtain ⟨-, rfl⟩ := happens
      rfl

theorem Conversation.uses {providers : Providers World P} {before after : Watched World}
    {calls : List (ProviderCall (Numbered P))}
    (conversation : Conversation providers.watched before calls after) :
    after.uses = before.uses ++ calls.map ProviderCall.use := by
  induction conversation with
  | nil world => exact (List.append_nil _).symm
  | cons happens later ih => rw [ih, happens.uses, List.append_assoc, List.map_cons, List.singleton_append]

def Converses (providers : Providers World P) (step : Run World α)
    (ends : α → List (ProviderCall P) → Prop) : Prop :=
  ∀ world, ∃ calls, Conversation providers world calls (step world).world ∧
    ends (step world).value calls

namespace Converses

variable {providers : Providers World P}

theorem pure {value : α} {ends : α → List (ProviderCall P) → Prop} (done : ends value []) :
    Converses providers (Pure.pure value) ends :=
  fun world => ⟨[], .nil world, done⟩

theorem bind {step : Run World α} {next : α → Run World β}
    {between : α → List (ProviderCall P) → Prop} {ends : β → List (ProviderCall P) → Prop}
    (first : Converses providers step between)
    (second : ∀ value calls, between value calls →
      Converses providers (next value) fun answer later => ends answer (calls ++ later)) :
    Converses providers (step >>= next) ends := by
  intro world
  obtain ⟨calls, conducted, reached⟩ := first world
  obtain ⟨later, continued, done⟩ := second _ calls reached (step world).world
  exact ⟨calls ++ later, conducted.append continued, done⟩

theorem mono {step : Run World α} {ends weaker : α → List (ProviderCall P) → Prop}
    (converses : Converses providers step ends)
    (imply : ∀ value calls, ends value calls → weaker value calls) :
    Converses providers step weaker := by
  intro world
  obtain ⟨calls, conducted, done⟩ := converses world
  exact ⟨calls, conducted, imply _ _ done⟩

theorem log {level : LogLevel} {message : String} {next : Unit → Run World β}
    {ends : β → List (ProviderCall P) → Prop} (second : Converses providers (next ()) ends) :
    Converses providers (Run.log level message >>= next) ends :=
  second

theorem single {step : Run World α} {call : α → ProviderCall P}
    (happens : ∀ world, (call (step world).value).Happens providers world (step world).world) :
    Converses providers step fun answer calls => calls = [call answer] :=
  fun world => ⟨_, .cons (happens world) (.nil _), rfl⟩

variable (providers)

theorem create (kind : ProviderKind) :
    Converses providers (providers.create kind) fun fresh calls => calls = [.create kind fresh] :=
  .single fun _ => ⟨rfl, rfl⟩

theorem isSupported (provider : P) :
    Converses providers (providers.isSupported provider) fun answer calls =>
      calls = [.probe provider answer] :=
  .single fun _ => ⟨rfl, rfl⟩

theorem register (provider : P) (hotkey : String) (binding : Binding) :
    Converses providers (providers.register provider hotkey binding) fun answer calls =>
      calls = [.register provider hotkey binding answer] :=
  .single fun _ => ⟨rfl, rfl⟩

theorem start (provider : P) :
    Converses providers (providers.start provider) fun answer calls =>
      calls = [.start provider answer] :=
  .single fun _ => ⟨rfl, rfl⟩

theorem stop (provider : P) :
    Converses providers (providers.stop provider) fun _ calls => calls = [.stop provider] :=
  .single fun _ => ⟨rfl, rfl⟩

theorem capturesKeys (provider : P) :
    Converses providers (providers.capturesKeys provider) fun answer calls =>
      calls = [.askCapture provider answer] :=
  .single fun _ => ⟨rfl, rfl⟩

theorem capture (provider : P) (limit : Duration) :
    Converses providers (providers.capture provider limit) fun answer calls =>
      calls = [.capture provider limit answer] :=
  .single fun _ => ⟨rfl, rfl⟩

end Converses

def ConversesManaged (providers : Providers World P) (step : Managed World P κ α)
    (manager : HotkeyManager P κ)
    (ends : α → HotkeyManager P κ → List (ProviderCall P) → Prop) : Prop :=
  Converses providers (step manager) fun after => ends after.1 after.2

namespace ConversesManaged

variable {providers : Providers World P} {manager : HotkeyManager P κ}

theorem pure {value : α} {ends : α → HotkeyManager P κ → List (ProviderCall P) → Prop}
    (done : ends value manager []) :
    ConversesManaged providers (Pure.pure value : Managed World P κ α) manager ends :=
  fun world => ⟨[], .nil world, done⟩

theorem bind {step : Managed World P κ α} {next : α → Managed World P κ β}
    {between : α → HotkeyManager P κ → List (ProviderCall P) → Prop}
    {ends : β → HotkeyManager P κ → List (ProviderCall P) → Prop}
    (first : ConversesManaged providers step manager between)
    (second : ∀ value manager calls, between value manager calls →
      ConversesManaged providers (next value) manager fun answer after later =>
        ends answer after (calls ++ later)) :
    ConversesManaged providers (step >>= next) manager ends :=
  Converses.bind first fun after => second after.1 after.2

theorem mono {step : Managed World P κ α}
    {ends weaker : α → HotkeyManager P κ → List (ProviderCall P) → Prop}
    (converses : ConversesManaged providers step manager ends)
    (imply : ∀ value manager calls, ends value manager calls → weaker value manager calls) :
    ConversesManaged providers step manager weaker :=
  Converses.mono converses fun after => imply after.1 after.2

theorem reworded {step : Managed World P κ α} {word : α → β}
    {between : α → HotkeyManager P κ → List (ProviderCall P) → Prop}
    {ends : β → HotkeyManager P κ → List (ProviderCall P) → Prop}
    (first : ConversesManaged providers step manager between)
    (imply : ∀ value after calls, between value after calls → ends (word value) after calls) :
    ConversesManaged providers (step >>= fun value => Pure.pure (word value)) manager ends :=
  bind first fun value after calls reached =>
    pure (by rw [List.append_nil]; exact imply value after calls reached)

theorem lift {step : Run World α} {next : α → Managed World P κ β}
    {between : α → List (ProviderCall P) → Prop}
    {ends : β → HotkeyManager P κ → List (ProviderCall P) → Prop}
    (first : Converses providers step between)
    (second : ∀ value calls, between value calls →
      ConversesManaged providers (next value) manager fun answer after later =>
        ends answer after (calls ++ later)) :
    ConversesManaged providers (StateT.lift step >>= next) manager ends :=
  Converses.bind first second

theorem get {next : HotkeyManager P κ → Managed World P κ β}
    {ends : β → HotkeyManager P κ → List (ProviderCall P) → Prop}
    (second : ConversesManaged providers (next manager) manager ends) :
    ConversesManaged providers (MonadState.get >>= next) manager ends :=
  second

theorem modified {update : HotkeyManager P κ → HotkeyManager P κ}
    {next : PUnit → Managed World P κ β}
    {ends : β → HotkeyManager P κ → List (ProviderCall P) → Prop}
    (second : ConversesManaged providers (next ⟨⟩) (update manager) ends) :
    ConversesManaged providers (modify update >>= next) manager ends :=
  second

theorem set {other : HotkeyManager P κ} {next : PUnit → Managed World P κ β}
    {ends : β → HotkeyManager P κ → List (ProviderCall P) → Prop}
    (second : ConversesManaged providers (next ⟨⟩) other ends) :
    ConversesManaged providers (MonadStateOf.set other >>= next) manager ends :=
  second

theorem note {level : LogLevel} {message : String} {next : Unit → Managed World P κ β}
    {ends : β → HotkeyManager P κ → List (ProviderCall P) → Prop}
    (second : ConversesManaged providers (next ()) manager ends) :
    ConversesManaged providers (HotkeyManager.note level message >>= next) manager ends :=
  second

end ConversesManaged

end GlobalHotkeys
