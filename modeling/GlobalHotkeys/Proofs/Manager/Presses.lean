import Mathlib.Data.Nat.Bits
import GlobalHotkeys.Manager.Recording
import GlobalHotkeys.Proofs.Manager.Operations

namespace GlobalHotkeys

variable {World P κ : Type}

structure Witnessed (World κ : Type) where
  world : World
  calls : List (κ × CallbackResult) := []

def witnessed (call : κ → Run World CallbackResult) (callback : κ) :
    Run (Witnessed World κ) CallbackResult := fun before =>
  let ended := call callback before.world
  { value := ended.value
    world := { world := ended.world, calls := before.calls ++ [(callback, ended.value)] }
    log := ended.log }

def RecordingCallbacks.due (callbacks : RecordingCallbacks κ) (recording : Bool) : κ :=
  if recording then callbacks.onStop else callbacks.onStart

/-- So many callbacks in turn, from the one that is due with `recording` on. -/
def RecordingCallbacks.alternation (callbacks : RecordingCallbacks κ) : Bool → Nat → List κ
  | _, 0 => []
  | recording, count + 1 => callbacks.due recording :: callbacks.alternation (!recording) count

theorem RecordingCallbacks.alternation_succ (callbacks : RecordingCallbacks κ) (recording : Bool)
    (count : Nat) :
    callbacks.alternation recording (count + 1) =
      callbacks.alternation recording count ++ [callbacks.due (recording ^^ count.bodd)] := by
  induction count generalizing recording with
  | zero => simp [alternation]
  | succ count ih =>
      rw [alternation, ih, alternation, List.cons_append]
      simp

def successes (calls : List (κ × CallbackResult)) : List κ :=
  (calls.filter fun call => call.2.isNone).map Prod.fst

inductive RecordingStep (κ : Type) where
  | press (id : String)
  | operation (operation : ManagerOperation κ)

def RecordingStep.callbacks? : RecordingStep κ → Option (RecordingCallbacks κ)
  | .press _ => none
  | .operation asked => asked.callbacks?

def lastCallbacks (history : List (RecordingStep κ)) : Option (RecordingCallbacks κ) :=
  history.reverse.findSome? RecordingStep.callbacks?

theorem lastCallbacks_append (history later : List (RecordingStep κ)) :
    lastCallbacks (history ++ later) = (lastCallbacks later).or (lastCallbacks history) := by
  simp [lastCallbacks, List.reverse_append, List.findSome?_append]

namespace HotkeyManager

section Press

variable (call : κ → Run World CallbackResult) {manager : HotkeyManager P κ} (world : World)

theorem value_bind {α β : Type} (step : Managed World P κ α) (next : α → Managed World P κ β) :
    ((step >>= next) manager world).value =
      (next (step manager world).value.1 (step manager world).value.2
        (step manager world).world).value :=
  rfl

theorem world_bind {α β : Type} (step : Managed World P κ α) (next : α → Managed World P κ β) :
    ((step >>= next) manager world).world =
      (next (step manager world).value.1 (step manager world).value.2
        (step manager world).world).world :=
  rfl

theorem pressRecording_of_unregistered (unregistered : manager.callbacks = none) :
    (pressRecording call manager world).value =
        (none, { manager with recording := !manager.recording }) ∧
      (pressRecording call manager world).world = world := by
  obtain ⟨config, environment, active, state, recording, callbacks, actions⟩ := manager
  obtain rfl : callbacks = none := unregistered
  exact ⟨rfl, rfl⟩

theorem pressRecording_of_registered {callbacks : RecordingCallbacks κ}
    (registered : manager.callbacks = some callbacks) :
    let ended := call (callbacks.due manager.recording) world
    (pressRecording call manager world).value =
        (ended.value, { manager with
          recording := settledFlag manager.recording ended.value (!manager.recording) }) ∧
      (pressRecording call manager world).world = ended.world := by
  obtain ⟨config, environment, active, state, recording, _, actions⟩ := manager
  obtain rfl : _ = some callbacks := registered
  exact ⟨rfl, rfl⟩

theorem fire_eq_press (id : String) (binding : Binding) (manager : HotkeyManager P κ) (world : World) :
    (fire call id binding manager world).value.2 = (press call binding manager world).value.2 ∧
      (fire call id binding manager world).world = (press call binding manager world).world := by
  unfold fire
  rw [value_bind, world_bind]
  cases (press call binding manager world).value.1 with
  | none => exact ⟨rfl, rfl⟩
  | some reasons => exact ⟨rfl, rfl⟩

theorem fire_of_unregistered (id : String) (unregistered : manager.callbacks = none) :
    (fire call id .recording manager world).value.2 =
        { manager with recording := !manager.recording } ∧
      (fire call id .recording manager world).world = world := by
  obtain ⟨value, later⟩ := pressRecording_of_unregistered call world unregistered
  obtain ⟨fired, firedWorld⟩ := fire_eq_press call id .recording manager world
  exact ⟨fired.trans (congrArg Prod.snd value), firedWorld.trans later⟩

theorem fire_of_registered (id : String) {callbacks : RecordingCallbacks κ}
    (registered : manager.callbacks = some callbacks) :
    let ended := call (callbacks.due manager.recording) world
    (fire call id .recording manager world).value.2 =
        { manager with
          recording := settledFlag manager.recording ended.value (!manager.recording) } ∧
      (fire call id .recording manager world).world = ended.world := by
  obtain ⟨value, later⟩ := pressRecording_of_registered call world registered
  obtain ⟨fired, firedWorld⟩ := fire_eq_press call id .recording manager world
  exact ⟨fired.trans (congrArg Prod.snd value), firedWorld.trans later⟩

end Press

structure RecordingCourse (World P κ : Type) where
  manager : HotkeyManager P κ
  world : Witnessed World κ

namespace RecordingCourse

variable (providers : Providers World P) (call : κ → Run World CallbackResult)

def step (course : RecordingCourse World P κ) : RecordingStep κ → RecordingCourse World P κ
  | .press id =>
    let after := fire (witnessed call) id .recording course.manager course.world
    { manager := after.value.2, world := after.world }
  | .operation operation =>
    let after := operation.perform providers course.manager course.world.world
    { manager := after.value.2, world := { course.world with world := after.world } }

def after (config : HotkeyConfig) (environment : Environment) (world : World)
    (history : List (RecordingStep κ)) : RecordingCourse World P κ :=
  history.foldl (step providers call) { manager := { config, environment }, world := { world } }

theorem after_concat (config : HotkeyConfig) (environment : Environment) (world : World)
    (history : List (RecordingStep κ)) (step : RecordingStep κ) :
    after providers call config environment world (history ++ [step]) =
      (after providers call config environment world history).step providers call step := by
  simp [after]

variable (course : RecordingCourse World P κ)

theorem step_press_of_unregistered (id : String) (unregistered : course.manager.callbacks = none) :
    course.step providers call (.press id) =
      { course with manager := { course.manager with recording := !course.manager.recording } } := by
  obtain ⟨manager, world⟩ := fire_of_unregistered (witnessed call) course.world id unregistered
  simp only [step]
  rw [manager, world]

theorem step_press_of_registered (id : String) {callbacks : RecordingCallbacks κ}
    (registered : course.manager.callbacks = some callbacks) :
    let due := callbacks.due course.manager.recording
    let ended := call due course.world.world
    course.step providers call (.press id) =
      { manager :=
          { course.manager with
            recording :=
              settledFlag course.manager.recording ended.value (!course.manager.recording) }
        world :=
          { world := ended.world
            calls := course.world.calls ++ [(due, ended.value)] } } := by
  obtain ⟨manager, world⟩ := fire_of_registered (witnessed call) course.world id registered
  simp only [step]
  rw [manager, world]
  rfl

theorem step_operation (operation : ManagerOperation κ) :
    let next := course.step providers call (.operation operation)
    next.world.calls = course.world.calls ∧
      next.manager.recording = course.manager.recording ∧
      next.manager.callbacks = operation.callbacks?.or course.manager.callbacks := by
  obtain ⟨calls, -, performs⟩ :=
    converses_perform providers course.manager operation course.world.world
  exact ⟨rfl, performs.recording, performs.callbacks⟩

theorem step_callbacks (step : RecordingStep κ) :
    (course.step providers call step).manager.callbacks =
      step.callbacks?.or course.manager.callbacks := by
  cases step with
  | operation operation => exact (step_operation providers call course operation).2.2
  | press id =>
      cases registered : course.manager.callbacks with
      | none =>
          rw [step_press_of_unregistered providers call course id registered]
          exact registered
      | some callbacks =>
          rw [step_press_of_registered providers call course id registered]
          exact registered

theorem callbacks_after (config : HotkeyConfig) (environment : Environment) (world : World)
    (history : List (RecordingStep κ)) :
    (after providers call config environment world history).manager.callbacks =
      lastCallbacks history := by
  induction history using List.reverseRecOn with
  | nil => rfl
  | append_singleton history step ih =>
      rw [after_concat, step_callbacks, ih, lastCallbacks_append]
      simp [lastCallbacks]

/-- From `before` to `after` these callbacks ended; those that succeeded took turns, and each turned
the recording over. -/
structure TakesTurns (callbacks : RecordingCallbacks κ) (before after : RecordingCourse World P κ)
    (ended : List (κ × CallbackResult)) : Prop where
  calls : after.world.calls = before.world.calls ++ ended
  turns : successes ended =
    callbacks.alternation before.manager.recording (successes ended).length
  recording : after.manager.recording = (before.manager.recording ^^ (successes ended).length.bodd)

variable {callbacks : RecordingCallbacks κ} {before after : RecordingCourse World P κ}
  {ended : List (κ × CallbackResult)}

theorem TakesTurns.start : TakesTurns callbacks before before [] where
  calls := by simp
  turns := rfl
  recording := by simp [successes]

theorem TakesTurns.press (turns : TakesTurns callbacks before after ended)
    (registered : after.manager.callbacks = some callbacks) (id : String) :
    let due := callbacks.due after.manager.recording
    TakesTurns callbacks before (after.step providers call (.press id))
      (ended ++ [(due, (call due after.world.world).value)]) := by
  intro due
  rw [step_press_of_registered providers call after id registered]
  cases result : (call due after.world.world).value with
  | none =>
      have more : successes (ended ++ [(due, none)]) = successes ended ++ [due] := by
        simp [successes]
      constructor
      · simp [turns.calls, due]
      · rw [more, List.length_append, List.length_singleton, RecordingCallbacks.alternation_succ,
          ← turns.turns, ← turns.recording]
      · rw [more]
        simp [settledFlag, due, turns.recording]
  | some reasons =>
      have same : successes (ended ++ [(due, some reasons)]) = successes ended := by
        simp [successes]
      constructor
      · simp [turns.calls, due]
      · rw [same]
        exact turns.turns
      · rw [same]
        simp [settledFlag, turns.recording]

theorem TakesTurns.operation (turns : TakesTurns callbacks before after ended)
    (operation : ManagerOperation κ) :
    TakesTurns callbacks before (after.step providers call (.operation operation)) ended := by
  obtain ⟨calls, recording, -⟩ := step_operation providers call after operation
  exact ⟨calls.trans turns.calls, turns.turns, recording.trans turns.recording⟩

theorem takesTurns_after (config : HotkeyConfig) (environment : Environment) (world : World)
    {history later : List (RecordingStep κ)} (registered : lastCallbacks history = some callbacks)
    (unregistered : ∀ step ∈ later, step.callbacks? = none) :
    ∃ ended, TakesTurns callbacks (RecordingCourse.after providers call config environment world history)
      (RecordingCourse.after providers call config environment world (history ++ later)) ended := by
  induction later using List.reverseRecOn with
  | nil =>
      rw [List.append_nil]
      exact ⟨[], .start⟩
  | append_singleton later step ih =>
      have before : ∀ step ∈ later, step.callbacks? = none :=
        fun step member => unregistered step (List.mem_append_left _ member)
      obtain ⟨ended, turns⟩ := ih before
      have still : (RecordingCourse.after providers call config environment world
          (history ++ later)).manager.callbacks = some callbacks := by
        have none : lastCallbacks later = none := by simpa [lastCallbacks] using before
        rw [callbacks_after, lastCallbacks_append, registered, none]
        rfl
      rw [← List.append_assoc, after_concat]
      cases step with
      | press id => exact ⟨_, turns.press providers call still id⟩
      | operation operation => exact ⟨ended, turns.operation providers call operation⟩

end RecordingCourse

/-- After any history, with any providers and callbacks: a press calls the callback registered last for
starting where the recording is off, and the one for stopping where it is on; if this succeeds the
recording is turned over, and if it fails stays as it was. Without callbacks a press turns it over. No
operation calls a callback or touches the recording, so between two registrations the callbacks that
succeed take turns. -/
theorem presses_take_turns (providers : Providers World P) (call : κ → Run World CallbackResult)
    (config : HotkeyConfig) (environment : Environment) (world : World)
    (history : List (RecordingStep κ)) :
    let course := RecordingCourse.after providers call config environment world history
    let recording := course.manager.recording
    (∀ id,
      let next := course.step providers call (.press id)
      let plain := fire call id .recording course.manager course.world.world
      (plain.value.2 = next.manager ∧ plain.world = next.world.world) ∧
      (lastCallbacks history = none →
        next.world.calls = course.world.calls ∧ next.manager.recording = !recording) ∧
      ∀ callbacks, lastCallbacks history = some callbacks →
        let due := if recording then callbacks.onStop else callbacks.onStart
        let result := (call due course.world.world).value
        next.world.calls = course.world.calls ++ [(due, result)] ∧
        next.manager.recording = if result.isSome then recording else !recording) ∧
    (∀ operation,
      let next := course.step providers call (.operation operation)
      next.world.calls = course.world.calls ∧ next.manager.recording = recording) ∧
    ∀ callbacks later, lastCallbacks history = some callbacks →
      (∀ step ∈ later, step.callbacks? = none) →
      let final := RecordingCourse.after providers call config environment world (history ++ later)
      ∃ ended, final.world.calls = course.world.calls ++ ended ∧
        successes ended = callbacks.alternation recording (successes ended).length ∧
        final.manager.recording = (recording ^^ (successes ended).length.bodd) := by
  intro course recording
  have known : course.manager.callbacks = lastCallbacks history :=
    RecordingCourse.callbacks_after providers call config environment world history
  refine ⟨fun id => ⟨?_, ?_, ?_⟩, fun operation => ?_, ?_⟩
  · cases registered : course.manager.callbacks with
    | none =>
        rw [RecordingCourse.step_press_of_unregistered providers call course id registered]
        exact fire_of_unregistered call course.world.world id registered
    | some callbacks =>
        rw [RecordingCourse.step_press_of_registered providers call course id registered]
        exact fire_of_registered call course.world.world id registered
  · intro unregistered
    rw [RecordingCourse.step_press_of_unregistered providers call course id
      (known.trans unregistered)]
    exact ⟨rfl, rfl⟩
  · intro callbacks registered
    rw [RecordingCourse.step_press_of_registered providers call course id (known.trans registered)]
    exact ⟨rfl, rfl⟩
  · obtain ⟨calls, recording, -⟩ := RecordingCourse.step_operation providers call course operation
    exact ⟨calls, recording⟩
  · intro callbacks later registered unregistered final
    obtain ⟨ended, turns⟩ := RecordingCourse.takesTurns_after providers call config environment world
      registered unregistered
    exact ⟨ended, turns.calls, turns.turns, turns.recording⟩

def fullDisk (callback : String) : Run Unit CallbackResult :=
  pure (if callback = "save" then some ["disk full"] else none)

/-- A stop that fails is tried again by the next press, also after a start of the manager. -/
theorem failed_stop_takes_no_turn :
    let callbacks : RecordingCallbacks String := { onStart := "record", onStop := "save" }
    let history := [RecordingStep.operation (.setCallbacks callbacks)]
    let press := RecordingStep.press "ctrl+alt+r"
    let later := [press, press, .operation .start, press]
    let final := RecordingCourse.after portalRefuses fullDisk {}
      { runtime := .system, desktop := "sway" } () (history ++ later)
    lastCallbacks history = some callbacks ∧ (∀ step ∈ later, step.callbacks? = none) ∧
      final.world.calls = [("record", none), ("save", some ["disk full"]), ("save", some ["disk full"])] ∧
      successes final.world.calls = callbacks.alternation false 1 ∧
      final.manager.recording = true := by
  intro callbacks history press later final
  have silent : ∀ step ∈ later, step.callbacks? = none := by
    simp [later, press, RecordingStep.callbacks?, ManagerOperation.callbacks?]
  obtain ⟨-, -, turns⟩ := presses_take_turns portalRefuses fullDisk {}
    { runtime := .system, desktop := "sway" } () history
  obtain ⟨ended, calls, alternate, recording⟩ := turns callbacks later rfl silent
  have all : final.world.calls =
      [("record", none), ("save", some ["disk full"]), ("save", some ["disk full"])] := by
    decide +kernel
  have same : final.world.calls = ended := calls
  rw [← same, all] at alternate recording
  refine ⟨rfl, silent, all, ?_, recording⟩
  rw [all]
  exact alternate

end HotkeyManager

end GlobalHotkeys
