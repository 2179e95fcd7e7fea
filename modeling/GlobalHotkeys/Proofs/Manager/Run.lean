import GlobalHotkeys.Proofs.Manager.Erasure
import GlobalHotkeys.Proofs.Manager.Tended

namespace GlobalHotkeys

variable {World P κ : Type}

inductive ManagerOperation (κ : Type) where
  | start
  | stop
  | reload (config : HotkeyConfig)
  | setCallbacks (callbacks : RecordingCallbacks κ)
  | addAction (name : String) (callback : κ)
  | capture (limit : Duration)
  | probe

inductive ManagerAnswer where
  | done
  | started (answer : Except HotkeyError Unit)
  | added (answer : Except HotkeyError Unit)
  | captured (answer : Except HotkeyError String)
  | supported (answer : Supported)

namespace ManagerOperation

def perform (providers : Providers World P) : ManagerOperation κ → Managed World P κ ManagerAnswer
  | .start => do
    let answer ← HotkeyManager.start providers
    pure (.started answer)
  | .stop => do
    HotkeyManager.stop providers
    pure .done
  | .reload config => do
    let answer ← HotkeyManager.reload providers config
    pure (.started answer)
  | .setCallbacks callbacks => do
    modify fun manager => manager.setCallbacks callbacks
    pure .done
  | .addAction name callback => do
    let answer ← HotkeyManager.addAction providers name callback
    pure (.added answer)
  | .capture limit => do
    let manager ← get
    let answer ← HotkeyManager.capture providers manager limit
    pure (.captured answer)
  | .probe => do
    let manager ← get
    let answer ← HotkeyManager.probe providers manager.environment
    pure (.supported answer)

def starts (manager : HotkeyManager P κ) : ManagerOperation κ → Bool
  | .start => manager.active.isNone
  | .reload _ => true
  | _ => false

/-- The answer of the last start that was not rejected at once, `before` being the one so far. -/
def lastStart (operation : ManagerOperation κ) (manager : HotkeyManager P κ)
    (before : Option (Except HotkeyError Unit)) : ManagerAnswer → Option (Except HotkeyError Unit)
  | .started answer => if operation.starts manager then some answer else before
  | _ => before

end ManagerOperation

namespace HotkeyManager

structure Course (World P κ : Type) where
  manager : HotkeyManager P κ
  world : World
  lastStart : Option (Except HotkeyError Unit) := none

namespace Course

variable (providers : Providers World P)

def step (course : Course World P κ) (operation : ManagerOperation κ) : Course World P κ :=
  let after := operation.perform providers course.manager course.world
  { manager := after.value.2
    world := after.world
    lastStart := operation.lastStart course.manager course.lastStart after.value.1 }

def after (config : HotkeyConfig) (environment : Environment) (world : World)
    (operations : List (ManagerOperation κ)) : Course World P κ :=
  operations.foldl (step providers) { manager := { config, environment }, world }

theorem after_concat (config : HotkeyConfig) (environment : Environment) (world : World)
    (operations : List (ManagerOperation κ)) (operation : ManagerOperation κ) :
    after providers config environment world (operations ++ [operation]) =
      (after providers config environment world operations).step providers operation := by
  rw [after, List.foldl_append]
  rfl

def unwatched (course : Course (Watched World) (Numbered P) κ) : Course World P κ :=
  { manager := course.manager.unwatched
    world := course.world.world
    lastStart := course.lastStart }

theorem erases_perform (operation : ManagerOperation κ) :
    ErasesManaged id (operation.perform providers.watched) (operation.perform providers) := by
  cases operation with
  | start => exact .bind (erases_start providers) fun _ => .pure id _
  | stop => exact .bind (erases_stop providers) fun _ => .pure id _
  | reload config => exact .bind (erases_reload providers config) fun _ => .pure id _
  | setCallbacks callbacks => exact .bind (.modified fun _ => rfl) fun _ => .pure id _
  | addAction name callback => exact .bind (erases_addAction providers name callback) fun _ => .pure id _
  | capture limit =>
      refine .bind .get fun manager => ?_
      exact .bind (.lift (erases_capture providers manager limit)) fun _ => .pure id _
  | probe =>
      refine .bind .get fun manager => ?_
      exact .bind (.lift (erases_probe providers manager.environment)) fun _ => .pure id _

theorem lastStart_unwatched (manager : HotkeyManager (Numbered P) κ)
    (operation : ManagerOperation κ) (before : Option (Except HotkeyError Unit)) :
    operation.lastStart manager.unwatched before = operation.lastStart manager before := by
  have starts : operation.starts manager.unwatched = operation.starts manager := by
    cases operation with
    | start => exact Option.isNone_map
    | _ => rfl
  funext answer
  unfold ManagerOperation.lastStart
  rw [starts]

theorem step_unwatched (course : Course (Watched World) (Numbered P) κ)
    (operation : ManagerOperation κ) :
    (course.step providers.watched operation).unwatched =
      course.unwatched.step providers operation := by
  have same := erases_perform providers operation course.manager course.world
  unfold step
  rw [show course.unwatched.manager = course.manager.unwatched from rfl,
    show course.unwatched.world = course.world.world from rfl, same, lastStart_unwatched]
  rfl

theorem after_unwatched (config : HotkeyConfig) (environment : Environment) (world : World)
    (operations : List (ManagerOperation κ)) :
    (after providers.watched config environment { world } operations).unwatched =
      after providers config environment world operations := by
  induction operations using List.reverseRecOn with
  | nil => rfl
  | append_singleton operations operation ih =>
      rw [after_concat, after_concat, step_unwatched, ih]

end Course

section Kept

variable (providers : Providers World P)

theorem start_of_active {manager : HotkeyManager P κ} (active : manager.active.isSome = true)
    (world : World) :
    start providers manager world =
      { value := (.error .alreadyStarted, manager), world, log := [] } := by
  unfold start
  show (if manager.active.isSome = true then pure (.error .alreadyStarted) else _ :
    Managed World P κ (Except HotkeyError Unit)) manager world = _
  rw [if_pos active]
  rfl

variable {manager : HotkeyManager (Numbered P) κ} {uses : List NumberedUse}
  {lastStart : Option (Except HotkeyError Unit)}

theorem leads_perform_start (tended : Tended lastStart manager uses) :
    LeadsManaged (ManagerOperation.start.perform providers.watched) manager uses
      fun answer later after =>
        Tended (ManagerOperation.start.lastStart manager lastStart answer) later after := by
  unfold ManagerOperation.lastStart ManagerOperation.starts
  cases tended with
  | serving serving =>
      obtain ⟨provider, kind, active, -⟩ := serving.serves
      have rejected : LeadsManaged (start providers.watched) manager uses fun answer later after =>
          answer = .error .alreadyStarted ∧ later = manager ∧ after = uses := by
        intro world
        rw [start_of_active providers.watched (by rw [active]; rfl)]
        exact ⟨rfl, rfl, rfl⟩
      rw [active]
      refine .bind rejected ?_
      rintro _ _ _ ⟨rfl, rfl, rfl⟩
      exact .pure (.serving serving)
  | resting resting rested =>
      rw [resting.inactive]
      exact .bind (leads_start providers resting) fun answer later after settled =>
        .pure settled.tended

theorem leads_perform (tended : Tended lastStart manager uses) (operation : ManagerOperation κ) :
    LeadsManaged (operation.perform providers.watched) manager uses fun answer later after =>
      Tended (operation.lastStart manager lastStart answer) later after := by
  cases operation with
  | start => exact leads_perform_start providers tended
  | stop =>
      exact .bind (leads_stop providers tended) fun _ later after stopped =>
        .pure (.resting stopped.1 stopped.2)
  | reload config =>
      exact .bind (leads_reload providers tended config) fun answer later after settled =>
        .pure settled.tended
  | setCallbacks callbacks => exact .modified (.pure (tended.congr rfl rfl))
  | addAction name callback =>
      exact .bind (leads_addAction providers tended name callback) fun _ later after tended =>
        .pure tended
  | capture limit =>
      exact .get (.lift (leads_capture providers tended limit) fun _ after calm =>
        .pure (tended.calm calm))
  | probe =>
      exact .get (.lift (leads_probe providers tended.orderly _) fun _ after calm =>
        .pure (tended.calm calm))

theorem tended_after (config : HotkeyConfig) (environment : Environment) (world : World)
    (operations : List (ManagerOperation κ)) :
    let course := Course.after providers.watched config environment { world } operations
    Tended course.lastStart course.manager course.world.uses := by
  induction operations using List.reverseRecOn with
  | nil =>
      exact .resting ⟨.nil, fun other runs => absurd runs.1 List.not_mem_nil, rfl⟩ trivial
  | append_singleton operations operation ih =>
      rw [Course.after_concat]
      exact leads_perform providers ih operation _

/-- After any operations, with any providers: watching the providers changed nothing; the state is
none of those that a start passes through; the manager is listening exactly when it has a provider,
and with the kind that this provider was created as; of the providers started and not yet
stopped this is the only one; between two starts that succeed the first provider is stopped once, and
after a start that fails the provider is not used again; a failed state names the error that the last
start answered; and while a provider is active, a start answers so and changes nothing. -/
theorem state_tells_provider (config : HotkeyConfig) (environment : Environment) (world : World)
    (operations : List (ManagerOperation κ)) :
    let course := Course.after providers.watched config environment { world } operations
    let manager := course.manager
    let uses := course.world.uses
    course.unwatched = Course.after providers config environment world operations ∧
    (∀ kind, manager.state ≠ .providerSelected kind) ∧
    (∀ first second, manager.state ≠ .fallbackAttempted first second) ∧
    (manager.active.isSome = true ↔ ∃ kind, manager.state = .listening kind) ∧
    (∀ kind, manager.state = .listening kind ↔ ∃ provider, manager.active = some provider ∧
      (provider.number, .create kind) ∈ uses) ∧
    (∀ number, Running uses number ↔ ∃ provider, manager.active = some provider ∧
      provider.number = number) ∧
    (∀ earlier first between second later,
      uses = earlier ++ (first, .start none) :: between ++ (second, .start none) :: later →
      between.count (first, .stop) = 1) ∧
    (∀ earlier number cause later, uses = earlier ++ (number, .start (some cause)) :: later →
      ∀ use ∈ later, use.1 ≠ number) ∧
    (∀ reason, manager.state = .failed reason → ∃ cause,
      course.lastStart = some (.error cause) ∧ reason = cause.message) ∧
    (manager.active.isSome = true → start providers.watched manager course.world =
      { value := (.error .alreadyStarted, manager), world := course.world, log := [] }) := by
  intro course manager uses
  have tended : Tended course.lastStart manager uses :=
    tended_after providers config environment world operations
  have orderly := tended.orderly
  refine ⟨Course.after_unwatched providers config environment world operations,
    tended.state_ne_providerSelected, tended.state_ne_fallbackAttempted, tended.active_iff,
    tended.listening_iff, tended.running_iff, ?_, ?_, ?_, ?_⟩
  · intro earlier first between second later whole
    exact (whole ▸ orderly).count_stop_between
  · intro earlier number cause later whole
    exact (whole ▸ orderly).unused_after_failure
  · intro reason failed
    exact tended.failed failed
  · intro active
    exact start_of_active providers.watched active course.world

end Kept

end HotkeyManager

end GlobalHotkeys
