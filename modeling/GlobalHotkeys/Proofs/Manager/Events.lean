import GlobalHotkeys.Manager.Events
import GlobalHotkeys.Proofs.Portal.Start
import GlobalHotkeys.Proofs.Provider.Bindings

namespace GlobalHotkeys

variable {World P κ : Type}

namespace HotkeyManager

def OnlyRecords {α : Type} (step : Managed World P κ α) : Prop :=
  ∀ manager world, ∃ recording, (step manager world).value.2 = { manager with recording }

namespace OnlyRecords

variable {α β : Type}

theorem pure (value : α) : OnlyRecords (Pure.pure value : Managed World P κ α) :=
  fun manager _ => ⟨manager.recording, rfl⟩

theorem lift (step : Run World α) : OnlyRecords (StateT.lift step : Managed World P κ α) :=
  fun manager _ => ⟨manager.recording, rfl⟩

theorem bind {step : Managed World P κ α} {next : α → Managed World P κ β}
    (first : OnlyRecords step) (second : ∀ value, OnlyRecords (next value)) :
    OnlyRecords (step >>= next) := by
  intro manager world
  obtain ⟨between, changed⟩ := first manager world
  obtain ⟨recording, again⟩ := second (step manager world).value.1 { manager with recording := between }
    (step manager world).world
  refine ⟨recording, ?_⟩
  rw [← changed] at again
  exact again.trans (by rw [changed])

theorem forIn (elements : List α) {body : α → Managed World P κ PUnit}
    (each : ∀ element, OnlyRecords (body element)) :
    OnlyRecords (ForIn.forIn elements PUnit.unit fun element _ => do
      body element
      Pure.pure (ForInStep.yield PUnit.unit)) := by
  induction elements with
  | nil => exact pure _
  | cons element rest ih =>
      rw [List.forIn_cons]
      refine .bind (.bind (each element) fun _ => pure _) fun next => ?_
      cases next with
      | done value => exact pure value
      | yield value => exact ih

theorem get : OnlyRecords (MonadState.get : Managed World P κ (HotkeyManager P κ)) :=
  fun manager _ => ⟨manager.recording, rfl⟩

theorem modified (update : HotkeyManager P κ → Bool) :
    OnlyRecords (modify fun manager => { manager with recording := update manager } :
      Managed World P κ PUnit) :=
  fun manager _ => ⟨update manager, rfl⟩

theorem pressRecording (call : κ → Run World CallbackResult) :
    OnlyRecords (HotkeyManager.pressRecording call : Managed World P κ CallbackResult) := by
  have turns : OnlyRecords (turnOver : Managed World P κ Bool) :=
    .bind get fun _ => .bind (modified _) fun _ => .bind (lift _) fun _ => pure _
  refine .bind turns fun before => .bind get fun manager => ?_
  cases manager.recordingCallback? before with
  | none => exact pure none
  | some callback =>
      exact .bind (lift (call callback)) fun _ => .bind (modified _) fun _ => pure _

theorem press (call : κ → Run World CallbackResult) (binding : Binding) :
    OnlyRecords (HotkeyManager.press call binding : Managed World P κ CallbackResult) := by
  cases binding with
  | recording => exact pressRecording call
  | action name =>
      refine .bind get fun manager => ?_
      cases manager.actions.get? name with
      | none => exact pure none
      | some callback => exact lift (call callback)

theorem fire (call : κ → Run World CallbackResult) (id : String) (binding : Binding) :
    OnlyRecords (HotkeyManager.fire call id binding : Managed World P κ Unit) := by
  refine .bind (press call binding) fun result => ?_
  cases result with
  | none => exact pure _
  | some reasons => exact lift _

end OnlyRecords

variable {manager : HotkeyManager HotkeyProvider κ}

def Retains (manager after : HotkeyManager HotkeyProvider κ) : Prop :=
  ∃ active recording, after = { manager with active, recording } ∧
    ∀ provider, active = some provider → ∃ before, manager.active = some before ∧
      provider.kind = before.kind ∧ provider.bindings = before.bindings

theorem Retains.refl (manager : HotkeyManager HotkeyProvider κ) : Retains manager manager :=
  ⟨manager.active, manager.recording, rfl, fun provider active => ⟨provider, active, rfl, rfl⟩⟩

theorem table_of_read (listener : Listener Binding) (index : Nat) (reading : Reading) :
    (listener.read index reading).2.table = listener.table := by
  unfold Listener.read
  split_ifs with reads
  · cases reading with
    | event event => rfl
    | failure reason => rfl
  · rfl

theorem get_bind {α : Type} (next : HotkeyManager P κ → Managed World P κ α)
    (manager : HotkeyManager P κ) : (MonadState.get >>= next) manager = next manager manager :=
  rfl

theorem active_of_listener? {listener : Listener Binding}
    (listening : manager.listener? = some listener) : manager.active = some (.evdev listener) := by
  unfold listener? at listening
  split at listening
  · next found => rw [found, Option.some.inj listening]
  · cases listening

theorem active_of_portal? {provider : PortalProvider Binding}
    (listening : manager.portal? = some provider) : manager.active = some (.portal provider) := by
  unfold portal? at listening
  split at listening
  · next found => rw [found, Option.some.inj listening]
  · cases listening

end HotkeyManager

namespace HotkeyProvider

def afterReading (index : Nat) (reading : Reading) : HotkeyProvider → HotkeyProvider
  | evdev listener => evdev (listener.read index reading).2
  | provider => provider

def afterDelivery (delivery : Delivery) : HotkeyProvider → HotkeyProvider
  | portal provider => portal (provider.hear delivery).2
  | provider => provider

def KeepsTable (heard : HotkeyProvider → HotkeyProvider) : Prop :=
  ∀ provider, (heard provider).kind = provider.kind ∧ (heard provider).bindings = provider.bindings

theorem keepsTable_afterReading (index : Nat) (reading : Reading) :
    KeepsTable (afterReading index reading) := by
  intro provider
  cases provider with
  | evdev listener => exact ⟨rfl, by simp only [afterReading, bindings, HotkeyManager.table_of_read]⟩
  | portal provider => exact ⟨rfl, rfl⟩
  | null provider => exact ⟨rfl, rfl⟩

theorem keepsTable_afterDelivery (delivery : Delivery) : KeepsTable (afterDelivery delivery) := by
  intro provider
  cases provider with
  | portal provider => exact ⟨rfl, provider.table_of_hear delivery⟩
  | evdev listener => exact ⟨rfl, rfl⟩
  | null provider => exact ⟨rfl, rfl⟩

end HotkeyProvider

namespace HotkeyManager

theorem exists_heard {α : Type} (heard : HotkeyProvider)
    {fires : PUnit → Managed World HotkeyProvider κ α} (records : OnlyRecords (fires ⟨⟩))
    (manager : HotkeyManager HotkeyProvider κ) (world : World) :
    ∃ recording,
      ((modify (fun manager => manager.withActive (some heard)) >>= fires) manager world).value.2 =
        { manager with active := some heard, recording } :=
  records (manager.withActive (some heard)) world

theorem exists_read (call : κ → Run World CallbackResult) (index : Nat) (reading : Reading)
    (manager : HotkeyManager HotkeyProvider κ) (world : World) :
    ∃ recording, (read call index reading manager world).value.2 =
      { manager with active := manager.active.map (·.afterReading index reading), recording } := by
  unfold read
  rw [get_bind]
  cases listening : manager.listener? with
  | none =>
      obtain ⟨config, environment, active, state, recording, callbacks, actions⟩ := manager
      cases active with
      | none => exact ⟨recording, rfl⟩
      | some provider =>
          cases provider with
          | evdev listener => cases listening
          | portal provider => exact ⟨recording, rfl⟩
          | null provider => exact ⟨recording, rfl⟩
  | some listener =>
      rw [active_of_listener? listening]
      refine exists_heard _ ?_ manager world
      refine .bind (.lift _) fun _ => .bind (.forIn _ fun registration => ?_) fun _ => .pure ()
      exact .fire call registration.id registration.binding

theorem exists_hear (call : κ → Run World CallbackResult) (delivery : Delivery)
    (manager : HotkeyManager HotkeyProvider κ) (world : World) :
    ∃ recording, (hear call delivery manager world).value.2 =
      { manager with active := manager.active.map (·.afterDelivery delivery), recording } := by
  unfold hear
  rw [get_bind]
  cases listening : manager.portal? with
  | none =>
      obtain ⟨config, environment, active, state, recording, callbacks, actions⟩ := manager
      cases active with
      | none => exact ⟨recording, rfl⟩
      | some provider =>
          cases provider with
          | portal provider => cases listening
          | evdev listener => exact ⟨recording, rfl⟩
          | null provider => exact ⟨recording, rfl⟩
  | some provider =>
      rw [active_of_portal? listening]
      dsimp only [Option.map_some, HotkeyProvider.afterDelivery]
      generalize provider.hear delivery = heard
      refine exists_heard _ ?_ manager world
      refine .bind (.lift _) fun _ => ?_
      cases heard.1 with
      | activated id binding => exact .fire call id binding
      | _ => exact .pure ()

theorem retains_mapped {manager : HotkeyManager HotkeyProvider κ} {heard : HotkeyProvider → HotkeyProvider}
    (keeps : HotkeyProvider.KeepsTable heard) (recording : Bool) :
    Retains manager { manager with active := manager.active.map heard, recording } := by
  refine ⟨_, recording, rfl, fun provider active => ?_⟩
  obtain ⟨before, ran, rfl⟩ := Option.map_eq_some_iff.mp active
  exact ⟨before, ran, keeps before⟩

theorem retains_read (call : κ → Run World CallbackResult) (index : Nat) (reading : Reading)
    (manager : HotkeyManager HotkeyProvider κ) (world : World) :
    Retains manager (read call index reading manager world).value.2 := by
  obtain ⟨recording, after⟩ := exists_read call index reading manager world
  rw [after]
  exact retains_mapped (HotkeyProvider.keepsTable_afterReading index reading) recording

theorem retains_hear (call : κ → Run World CallbackResult) (delivery : Delivery)
    (manager : HotkeyManager HotkeyProvider κ) (world : World) :
    Retains manager (hear call delivery manager world).value.2 := by
  obtain ⟨recording, after⟩ := exists_hear call delivery manager world
  rw [after]
  exact retains_mapped (HotkeyProvider.keepsTable_afterDelivery delivery) recording

end HotkeyManager

end GlobalHotkeys
