import GlobalHotkeys.Proofs.Provider.Watched

namespace GlobalHotkeys

variable {World P κ α β : Type} {uses : List NumberedUse}

def Leads (step : Run (Watched World) α) (uses : List NumberedUse)
    (ends : α → List NumberedUse → Prop) : Prop :=
  ∀ world, ends (step { world, uses }).value (step { world, uses }).world.uses

namespace Leads

theorem pure {value : α} {ends : α → List NumberedUse → Prop} (done : ends value uses) :
    Leads (Pure.pure value : Run (Watched World) α) uses ends :=
  fun _ => done

theorem bind {step : Run (Watched World) α} {next : α → Run (Watched World) β}
    {between : α → List NumberedUse → Prop} {ends : β → List NumberedUse → Prop}
    (first : Leads step uses between)
    (second : ∀ value after, between value after → Leads (next value) after ends) :
    Leads (step >>= next) uses ends := by
  intro world
  rw [Run.bind_apply]
  exact second _ _ (first world) (step { world, uses }).world.world

theorem mono {step : Run (Watched World) α} {ends weaker : α → List NumberedUse → Prop}
    (leads : Leads step uses ends) (imply : ∀ value after, ends value after → weaker value after) :
    Leads step uses weaker :=
  fun world => imply _ _ (leads world)

theorem log {level : LogLevel} {message : String} {next : Unit → Run (Watched World) β}
    {ends : β → List NumberedUse → Prop} (second : Leads (next ()) uses ends) :
    Leads (Run.log level message >>= next) uses ends :=
  second

end Leads

theorem Numbered.number_of_answer {numbered ready : Numbered P} {answer : Except HotkeyError P}
    (taken : numbered.answer answer = .ok ready) : ready.number = numbered.number := by
  cases answer with
  | error cause => cases taken
  | ok provider =>
      cases taken
      rfl

section Calls

variable (providers : Providers World P) {numbered : Numbered P}

theorem calls_create (orderly : Orderly uses) (kind : ProviderKind) :
    Leads (providers.watched.create kind) uses fun fresh after =>
      Calm uses after ∧ Ready after fresh.number ∧ (fresh.number, .create kind) ∈ after :=
  fun _ => ⟨orderly.calm_create kind, orderly.ready_create kind,
    List.mem_append_right _ (List.mem_singleton.mpr rfl)⟩

theorem calls_isSupported (orderly : Orderly uses) (usable : Usable uses numbered.number) :
    Leads (providers.watched.isSupported numbered) uses fun _ after => Calm uses after := by
  intro world
  show Calm uses (uses ++ [(numbered.number, .probe)])
  exact .concat orderly usable (fun _ => ProviderUse.noConfusion) ProviderUse.noConfusion

theorem calls_capturesKeys (orderly : Orderly uses) (usable : Usable uses numbered.number) :
    Leads (providers.watched.capturesKeys numbered) uses fun _ after => Calm uses after := by
  intro world
  show Calm uses (uses ++ [(numbered.number, .askCapture)])
  exact .concat orderly usable (fun _ => ProviderUse.noConfusion) ProviderUse.noConfusion

theorem calls_capture (orderly : Orderly uses) (usable : Usable uses numbered.number)
    (limit : Duration) :
    Leads (providers.watched.capture numbered limit) uses fun _ after => Calm uses after := by
  intro world
  show Calm uses (uses ++ [(numbered.number, .capture)])
  exact .concat orderly usable (fun _ => ProviderUse.noConfusion) ProviderUse.noConfusion

theorem calls_register (orderly : Orderly uses) (usable : Usable uses numbered.number)
    (hotkey : String) (binding : Binding) :
    Leads (providers.watched.register numbered hotkey binding) uses fun answer after =>
      Calm uses after ∧ ∀ ready, answer = .ok ready → ready.number = numbered.number := by
  intro world
  refine ⟨?_, fun ready => Numbered.number_of_answer⟩
  show Calm uses (uses ++ [(numbered.number, .register hotkey binding (failure? _))])
  exact .concat orderly usable (fun _ => ProviderUse.noConfusion) ProviderUse.noConfusion

theorem calls_start (orderly : Orderly uses) (ready : Ready uses numbered.number)
    (idle : ∀ other, ¬ Running uses other) :
    Leads (providers.watched.start numbered) uses fun answer after =>
      Orderly after ∧ uses ⊆ after ∧
        match answer with
        | .ok running => running.number = numbered.number ∧ Usable after running.number ∧
            ∀ other, Running after other ↔ other = running.number
        | .error _ => ∀ other, ¬ Running after other := by
  intro world
  refine ⟨orderly.concat ⟨ready.1, ready.2, idle⟩, List.subset_append_left _ _, ?_⟩
  show match numbered.answer (providers.start numbered.provider world).value with
    | .ok running => running.number = numbered.number ∧ Usable (uses ++ [_]) running.number ∧
        ∀ other, Running (uses ++ [_]) other ↔ other = running.number
    | .error _ => ∀ other, ¬ Running (uses ++ [_]) other
  cases (providers.start numbered.provider world).value with
  | error cause => exact idle_failed_start idle cause
  | ok provider =>
      exact ⟨rfl, ready.usable_start, fun other => ready.running_start_iff idle⟩

theorem calls_stop (orderly : Orderly uses) (usable : Usable uses numbered.number)
    (running : ∀ other, Running uses other ↔ other = numbered.number) :
    Leads (providers.watched.stop numbered) uses fun _ after =>
      Orderly after ∧ ∀ other, ¬ Running after other :=
  fun _ => ⟨orderly.concat ⟨usable, ((running _).mpr rfl).1⟩, idle_stop running⟩

end Calls

def LeadsManaged (step : Managed (Watched World) P κ α) (manager : HotkeyManager P κ)
    (uses : List NumberedUse) (ends : α → HotkeyManager P κ → List NumberedUse → Prop) : Prop :=
  Leads (step manager) uses fun after => ends after.1 after.2

namespace LeadsManaged

variable {manager : HotkeyManager P κ}

theorem pure {value : α} {ends : α → HotkeyManager P κ → List NumberedUse → Prop}
    (done : ends value manager uses) :
    LeadsManaged (Pure.pure value : Managed (Watched World) P κ α) manager uses ends :=
  fun _ => done

theorem bind {step : Managed (Watched World) P κ α} {next : α → Managed (Watched World) P κ β}
    {between : α → HotkeyManager P κ → List NumberedUse → Prop}
    {ends : β → HotkeyManager P κ → List NumberedUse → Prop}
    (first : LeadsManaged step manager uses between)
    (second : ∀ value manager after, between value manager after →
      LeadsManaged (next value) manager after ends) :
    LeadsManaged (step >>= next) manager uses ends :=
  fun world => second _ _ _ (first world) (step manager { world, uses }).world.world

theorem mono {step : Managed (Watched World) P κ α}
    {ends weaker : α → HotkeyManager P κ → List NumberedUse → Prop}
    (leads : LeadsManaged step manager uses ends)
    (imply : ∀ value manager after, ends value manager after → weaker value manager after) :
    LeadsManaged step manager uses weaker :=
  Leads.mono leads fun after uses => imply after.1 after.2 uses

theorem lift {step : Run (Watched World) α} {next : α → Managed (Watched World) P κ β}
    {between : α → List NumberedUse → Prop}
    {ends : β → HotkeyManager P κ → List NumberedUse → Prop} (first : Leads step uses between)
    (second : ∀ value after, between value after → LeadsManaged (next value) manager after ends) :
    LeadsManaged (StateT.lift step >>= next) manager uses ends :=
  fun world => second _ _ (first world) (step { world, uses }).world.world

theorem get {next : HotkeyManager P κ → Managed (Watched World) P κ β}
    {ends : β → HotkeyManager P κ → List NumberedUse → Prop}
    (second : LeadsManaged (next manager) manager uses ends) :
    LeadsManaged (MonadState.get >>= next) manager uses ends :=
  second

theorem modified {update : HotkeyManager P κ → HotkeyManager P κ}
    {next : PUnit → Managed (Watched World) P κ β}
    {ends : β → HotkeyManager P κ → List NumberedUse → Prop}
    (second : LeadsManaged (next ⟨⟩) (update manager) uses ends) :
    LeadsManaged (modify update >>= next) manager uses ends :=
  second

theorem set {other : HotkeyManager P κ} {next : PUnit → Managed (Watched World) P κ β}
    {ends : β → HotkeyManager P κ → List NumberedUse → Prop}
    (second : LeadsManaged (next ⟨⟩) other uses ends) :
    LeadsManaged (MonadStateOf.set other >>= next) manager uses ends :=
  second

theorem note {level : LogLevel} {message : String} {next : Unit → Managed (Watched World) P κ β}
    {ends : β → HotkeyManager P κ → List NumberedUse → Prop}
    (second : LeadsManaged (next ()) manager uses ends) :
    LeadsManaged (HotkeyManager.note level message >>= next) manager uses ends :=
  second

end LeadsManaged

end GlobalHotkeys
