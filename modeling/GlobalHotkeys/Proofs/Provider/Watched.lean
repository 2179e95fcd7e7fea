import GlobalHotkeys.Manager.Events
import GlobalHotkeys.Proofs.Provider.Uses

namespace GlobalHotkeys

variable {World P κ α β γ δ : Type}

structure Watched (World : Type) where
  world : World
  uses : List NumberedUse := []

structure Numbered (P : Type) where
  provider : P
  number : Nat

def failure? : Except HotkeyError α → Option HotkeyError
  | .ok _ => none
  | .error cause => some cause

def recorded (number : Nat) (use : α → ProviderUse) (answer : α → β) (step : Run World α) :
    Run (Watched World) β := fun now =>
  let after := step now.world
  { value := answer after.value
    world := { world := after.world, uses := now.uses ++ [(number, use after.value)] }
    log := after.log }

def Numbered.answer (numbered : Numbered P) :
    Except HotkeyError P → Except HotkeyError (Numbered P) :=
  Except.map fun provider => { numbered with provider }

def Providers.watched (providers : Providers World P) : Providers (Watched World) (Numbered P) where
  create kind := fun now =>
    recorded (creations now.uses) (fun _ => .create kind)
      (fun provider => { provider, number := creations now.uses }) (providers.create kind) now
  name numbered := providers.name numbered.provider
  isSupported numbered :=
    recorded numbered.number (fun _ => .probe) id (providers.isSupported numbered.provider)
  register numbered hotkey binding :=
    recorded numbered.number (fun answer => .register hotkey binding (failure? answer))
      numbered.answer (providers.register numbered.provider hotkey binding)
  start numbered :=
    recorded numbered.number (fun answer => .start (failure? answer)) numbered.answer
      (providers.start numbered.provider)
  stop numbered := recorded numbered.number (fun _ => .stop) id (providers.stop numbered.provider)
  capturesKeys numbered :=
    recorded numbered.number (fun _ => .askCapture) id (providers.capturesKeys numbered.provider)
  capture numbered limit :=
    recorded numbered.number (fun _ => .capture) id (providers.capture numbered.provider limit)

/-- Without the record, the watched step is the plain one. -/
def Erases (erase : α → β) (watched : Run (Watched World) α) (plain : Run World β) : Prop :=
  ∀ now, plain now.world =
    { value := erase (watched now).value
      world := (watched now).world.world
      log := (watched now).log }

namespace Erases

theorem pure (erase : α → β) (value : α) :
    Erases erase (Pure.pure value : Run (Watched World) α) (Pure.pure (erase value)) :=
  fun _ => rfl

theorem bind {erase : α → β} {eraseNext : γ → δ} {watched : Run (Watched World) α}
    {plain : Run World β} {watchedNext : α → Run (Watched World) γ} {plainNext : β → Run World δ}
    (first : Erases erase watched plain)
    (second : ∀ value, Erases eraseNext (watchedNext value) (plainNext (erase value))) :
    Erases eraseNext (watched >>= watchedNext) (plain >>= plainNext) := by
  intro now
  rw [Run.bind_apply, Run.bind_apply, first now, second _ (watched now).world]

theorem bindSame {eraseNext : γ → δ} {watched : Run (Watched World) α} {plain : Run World α}
    {watchedNext : α → Run (Watched World) γ} {plainNext : α → Run World δ}
    (first : Erases id watched plain)
    (second : ∀ value, Erases eraseNext (watchedNext value) (plainNext value)) :
    Erases eraseNext (watched >>= watchedNext) (plain >>= plainNext) :=
  first.bind second

theorem log (level : LogLevel) (message : String) :
    Erases id (Run.log level message : Run (Watched World) Unit) (Run.log level message) :=
  fun _ => rfl

theorem recorded (number : Nat) (use : α → ProviderUse) (step : Run World α) :
    Erases id (recorded number use id step) step :=
  fun _ => rfl

theorem created (providers : Providers World P) (kind : ProviderKind) :
    Erases Numbered.provider (providers.watched.create kind) (providers.create kind) :=
  fun _ => rfl

theorem answered (numbered : Numbered P) (use : Except HotkeyError P → ProviderUse)
    (step : Run World (Except HotkeyError P)) :
    Erases (Except.map Numbered.provider)
      (GlobalHotkeys.recorded numbered.number use numbered.answer step) step := by
  intro now
  have same (answer : Except HotkeyError P) :
      (numbered.answer answer).map Numbered.provider = answer := by
    cases answer <;> rfl
  simp only [GlobalHotkeys.recorded, same]

end Erases

def HotkeyManager.unwatched (manager : HotkeyManager (Numbered P) κ) : HotkeyManager P κ :=
  manager.withActive (manager.active.map Numbered.provider)

def ErasesManaged (erase : α → β) (watched : Managed (Watched World) (Numbered P) κ α)
    (plain : Managed World P κ β) : Prop :=
  ∀ manager, Erases (Prod.map erase HotkeyManager.unwatched) (watched manager)
    (plain manager.unwatched)

namespace ErasesManaged

theorem pure (erase : α → β) (value : α) :
    ErasesManaged erase (Pure.pure value : Managed (Watched World) (Numbered P) κ α)
      (Pure.pure (erase value)) :=
  fun _ => .pure _ _

theorem bind {erase : α → β} {eraseNext : γ → δ}
    {watched : Managed (Watched World) (Numbered P) κ α} {plain : Managed World P κ β}
    {watchedNext : α → Managed (Watched World) (Numbered P) κ γ}
    {plainNext : β → Managed World P κ δ} (first : ErasesManaged erase watched plain)
    (second : ∀ value, ErasesManaged eraseNext (watchedNext value) (plainNext (erase value))) :
    ErasesManaged eraseNext (watched >>= watchedNext) (plain >>= plainNext) := by
  intro manager
  show Erases _ (watched manager >>= fun after => watchedNext after.1 after.2)
    (plain manager.unwatched >>= fun after => plainNext after.1 after.2)
  exact (first manager).bind fun after => second after.1 after.2

theorem lift {erase : α → β} {watched : Run (Watched World) α} {plain : Run World β}
    (erases : Erases erase watched plain) :
    ErasesManaged erase
      (StateT.lift watched : Managed (Watched World) (Numbered P) κ α) (StateT.lift plain) :=
  fun _ => erases.bind fun _ => .pure _ _

theorem get :
    ErasesManaged HotkeyManager.unwatched
      (MonadState.get : Managed (Watched World) (Numbered P) κ _) MonadState.get :=
  fun _ => .pure _ _

theorem modified {watched : HotkeyManager (Numbered P) κ → HotkeyManager (Numbered P) κ}
    {plain : HotkeyManager P κ → HotkeyManager P κ}
    (same : ∀ manager, (watched manager).unwatched = plain manager.unwatched) :
    ErasesManaged id (modify watched : Managed (Watched World) (Numbered P) κ Unit)
      (modify plain) := by
  intro manager
  show Erases _ (Pure.pure ((), watched manager)) (Pure.pure ((), plain manager.unwatched))
  rw [← same manager]
  exact .pure _ _

theorem set (manager : HotkeyManager (Numbered P) κ) :
    ErasesManaged id (MonadStateOf.set manager : Managed (Watched World) (Numbered P) κ PUnit)
      (MonadStateOf.set manager.unwatched) :=
  fun _ => .pure (Prod.map id HotkeyManager.unwatched) _

end ErasesManaged

end GlobalHotkeys
