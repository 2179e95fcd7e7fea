import Mathlib.Data.Nat.Bits
import GlobalHotkeys.Proofs.Manager.Presses

/-!
# Presses of the recording hotkey that overlap

A callback may take its time, and the recording hotkey may be pressed again meanwhile. The presses then
share the flag: each turns it over at its begin, and one that failed puts it back to what it found,
whatever others have done to it since. The steps of the presses come in any order.
-/

namespace GlobalHotkeys

namespace HotkeyManager

variable {World P κ : Type}

theorem settle_manager (found : Bool) (result : CallbackResult) (manager : HotkeyManager P κ)
    (world : World) :
    (settle found result manager world).value.2 =
      { manager with recording := settledFlag found result manager.recording } :=
  rfl

inductive PressEvent where
  | begun (press : Nat)
  | ended (press : Nat) (result : CallbackResult)
  | uncalled (press : Nat)

namespace PressEvent

def succeeds : PressEvent → Bool
  | ended _ result => result.isNone
  | _ => false

def lasts : PressEvent → Bool
  | begun _ => false
  | ended _ result => result.isNone
  | uncalled _ => true

end PressEvent

structure Overlap (P κ : Type) where
  manager : HotkeyManager P κ
  running : List (Nat × Bool) := []
  /-- How many failed presses did not find the recording as they had left it. -/
  disturbed : Nat := 0

namespace Overlap

inductive Step : Overlap P κ → PressEvent → Overlap P κ → Prop where
  | begin {manager turned : HotkeyManager P κ} {running : List (Nat × Bool)} {disturbed press : Nat}
      {found : Bool} (fresh : press ∉ running.map Prod.fst)
      (turns : (turnOver manager ()).value = (found, turned)) :
      Step { manager, running, disturbed } (.begun press)
        { manager := turned, running := (press, found) :: running, disturbed }
  | succeed {manager settled : HotkeyManager P κ} {running : List (Nat × Bool)}
      {disturbed press : Nat} {found : Bool} (runs : (press, found) ∈ running)
      (registered : (manager.recordingCallback? found).isSome = true)
      (settles : (settle found none manager ()).value.2 = settled) :
      Step { manager, running, disturbed } (.ended press none)
        { manager := settled, running := running.erase (press, found), disturbed }
  | fail {manager settled : HotkeyManager P κ} {running : List (Nat × Bool)}
      {disturbed press : Nat} {found : Bool} (runs : (press, found) ∈ running)
      (registered : (manager.recordingCallback? found).isSome = true) (reasons : List String)
      (settles : (settle found (some reasons) manager ()).value.2 = settled) :
      Step { manager, running, disturbed } (.ended press (some reasons))
        { manager := settled
          running := running.erase (press, found)
          disturbed := if manager.recording = found then disturbed + 1 else disturbed }
  | skip {manager : HotkeyManager P κ} {running : List (Nat × Bool)} {disturbed press : Nat}
      {found : Bool} (runs : (press, found) ∈ running)
      (unregistered : manager.recordingCallback? found = none) :
      Step { manager, running, disturbed } (.uncalled press)
        { manager, running := running.erase (press, found), disturbed }

inductive Steps : Overlap P κ → List PressEvent → Overlap P κ → Prop where
  | nil (overlap : Overlap P κ) : Steps overlap [] overlap
  | cons {before between after : Overlap P κ} {event : PressEvent} {events : List PressEvent}
      (first : Step before event between) (later : Steps between events after) :
      Steps before (event :: events) after

/-- The flag without what the running presses did to it and what failed ones overwrote. -/
def account (overlap : Overlap P κ) : Bool :=
  overlap.manager.recording ^^ overlap.running.length.bodd ^^ overlap.disturbed.bodd

theorem bodd_length_erase {running : List (Nat × Bool)} {press : Nat × Bool}
    (runs : press ∈ running) : (running.erase press).length.bodd = !running.length.bodd := by
  rw [(List.perm_cons_erase runs).length_eq, List.length_cons, Nat.bodd_succ, Bool.not_not]

theorem Step.account {before after : Overlap P κ} {event : PressEvent}
    (step : Step before event after) : after.account = (before.account ^^ event.lasts) := by
  cases step with
  | begin fresh turns =>
      cases turns
      simp [Overlap.account, PressEvent.lasts]
  | succeed runs registered settles =>
      rw [settle_manager] at settles
      cases settles
      simp [Overlap.account, PressEvent.lasts, settledFlag, bodd_length_erase runs]
  | @fail manager _ running disturbed press found runs registered reasons settles =>
      rw [settle_manager] at settles
      cases settles
      -- The store turns the flag back only where it is as the press left it; else it changes nothing, and
      -- the press counts as disturbed.
      by_cases disturbs : manager.recording = found
      · simp [Overlap.account, PressEvent.lasts, settledFlag, bodd_length_erase runs, disturbs]
      · have left : manager.recording = !found := Bool.eq_not.mpr disturbs
        simp [Overlap.account, PressEvent.lasts, settledFlag, bodd_length_erase runs, left]
  | skip runs unregistered =>
      simp [Overlap.account, PressEvent.lasts, bodd_length_erase runs]

theorem Steps.account {before after : Overlap P κ} {events : List PressEvent}
    (steps : Steps before events after) :
    after.account = (before.account ^^ (events.countP PressEvent.lasts).bodd) := by
  induction steps with
  | nil overlap => simp
  | @cons before between after event events first later ih =>
      rw [ih, first.account, List.countP_cons]
      cases event.lasts <;> simp

/-- A press that no other comes between takes these two steps. -/
theorem steps_pressRecording (call : κ → Run World CallbackResult) (manager : HotkeyManager P κ)
    (world : World) (press : Nat) :
    let pressed := (pressRecording call manager world).value
    ∃ event, Steps { manager } [.begun press, event] { manager := pressed.2 } ∧
      (event.lasts = true ↔ pressed.1 = none) := by
  let turned : HotkeyManager P κ := { manager with recording := !manager.recording }
  let running := [(press, manager.recording)]
  have begun : Step { manager } (.begun press) { manager := turned, running } :=
    .begin (by simp) rfl
  have runs : (press, manager.recording) ∈ running := List.mem_singleton_self _
  have cleared : running.erase (press, manager.recording) = [] := by simp [running]
  cases registered : manager.callbacks with
  | none =>
      have unregistered : turned.recordingCallback? manager.recording = none := by
        simp [recordingCallback?, turned, registered]
      have skipped : Step { manager := turned, running } (.uncalled press) _ :=
        .skip runs unregistered
      rw [cleared] at skipped
      rw [(pressRecording_of_unregistered call world registered).1]
      exact ⟨_, .cons begun (.cons skipped (.nil _)), by simp [PressEvent.lasts]⟩
  | some callbacks =>
      have known : (turned.recordingCallback? manager.recording).isSome = true := by
        simp [recordingCallback?, turned, registered]
      rw [(pressRecording_of_registered call world registered).1]
      cases result : (call (callbacks.due manager.recording) world).value with
      | none =>
          have succeeded : Step { manager := turned, running } (.ended press none) _ :=
            .succeed runs known rfl
          rw [cleared] at succeeded
          exact ⟨_, .cons begun (.cons succeeded (.nil _)), by simp [PressEvent.lasts]⟩
      | some reasons =>
          have failed : Step { manager := turned, running } (.ended press (some reasons)) _ :=
            .fail runs known reasons rfl
          have left : ¬ turned.recording = manager.recording := by simp [turned]
          rw [cleared, if_neg left] at failed
          exact ⟨_, .cons begun (.cons failed (.nil _)), by simp [PressEvent.lasts]⟩

end Overlap

/-- However many presses overlap and in whatever order their steps come: if each failed press puts the
flag back while it is as that press left it, then in the end the flag has been turned over once for
each press that did not fail. -/
theorem recording_counts_lasting_presses {manager : HotkeyManager P κ} {events : List PressEvent}
    {after : Overlap P κ} (steps : Overlap.Steps { manager } events after)
    (ended : after.running = []) (undisturbed : after.disturbed = 0) :
    after.manager.recording = (manager.recording ^^ (events.countP PressEvent.lasts).bodd) := by
  simpa [Overlap.account, ended, undisturbed] using steps.account

def pressable (callbacks : Option (RecordingCallbacks Unit)) : HotkeyManager ProviderKind Unit where
  config := {}
  environment := { runtime := .system, desktop := "" }
  callbacks

/-- Two presses overlap and the second fails, which leaves the recording to the first. -/
theorem overlapping_failure_undone :
    let events := [PressEvent.begun 0, .begun 1, .ended 1 (some ["no device"]), .ended 0 none]
    ∃ after : Overlap ProviderKind Unit,
      Overlap.Steps { manager := pressable (some ⟨(), ()⟩) } events after ∧
      after.running = [] ∧ after.disturbed = 0 ∧
      after.manager.recording =
        ((pressable (some ⟨(), ()⟩)).recording ^^ (events.countP PressEvent.lasts).bodd) := by
  intro events
  have steps : Overlap.Steps { manager := pressable (some ⟨(), ()⟩) } events
      { manager := { pressable (some ⟨(), ()⟩) with recording := true } } :=
    .cons (.begin (by decide) rfl) <| .cons (.begin (by decide) rfl) <|
      .cons (.fail (.head _) rfl _ rfl) <| .cons (.succeed (.head []) rfl rfl) (.nil _)
  exact ⟨_, steps, rfl, rfl, recording_counts_lasting_presses steps rfl rfl⟩

/-- Successes do not tell the flag. One press turns the recording on, another turns it off again and
succeeds, and then the first fails and stores what it had found: the flag ends as it began, though one
press succeeded. It also ends otherwise than the successes tell where there are no callbacks at all. -/
theorem recording_miscounts_successes :
    (let events := [PressEvent.begun 0, .begun 1, .ended 1 none, .ended 0 (some ["no device"])]
      ∃ after : Overlap ProviderKind Unit,
        Overlap.Steps { manager := pressable (some ⟨(), ()⟩) } events after ∧ after.running = [] ∧
        after.manager.recording ≠
          ((pressable (some ⟨(), ()⟩)).recording ^^ (events.countP PressEvent.succeeds).bodd)) ∧
    let events := [PressEvent.begun 0, .uncalled 0]
    ∃ after : Overlap ProviderKind Unit,
      Overlap.Steps { manager := pressable none } events after ∧ after.running = [] ∧
      after.manager.recording ≠
        ((pressable none).recording ^^ (events.countP PressEvent.succeeds).bodd) := by
  constructor
  · intro events
    have steps : Overlap.Steps { manager := pressable (some ⟨(), ()⟩) } events
        { manager := pressable (some ⟨(), ()⟩), disturbed := 1 } :=
      .cons (.begin (by decide) rfl) <| .cons (.begin (by decide) rfl) <|
        .cons (.succeed (.head _) rfl rfl) <| .cons (.fail (.head []) rfl _ rfl) (.nil _)
    exact ⟨_, steps, rfl, by decide⟩
  · intro events
    have steps : Overlap.Steps { manager := pressable none } events
        { manager := { pressable none with recording := true } } :=
      .cons (.begin (by decide) rfl) <| .cons (.skip (.head []) rfl) (.nil _)
    exact ⟨_, steps, rfl, by decide⟩

end HotkeyManager

end GlobalHotkeys
