import GlobalHotkeys.Proofs.Manager.Policy
import GlobalHotkeys.Proofs.Manager.Run

namespace GlobalHotkeys

variable {World P κ : Type}

namespace ManagerOperation

def callbacks? : ManagerOperation κ → Option (RecordingCallbacks κ)
  | setCallbacks callbacks => some callbacks
  | _ => none

def config? : ManagerOperation κ → Option HotkeyConfig
  | reload config => some config
  | _ => none

def action? : ManagerOperation κ → Option (String × κ)
  | addAction name callback => some (name, callback)
  | _ => none

end ManagerOperation

namespace HotkeyManager

inductive Starts (manager : HotkeyManager P κ) :
    Except HotkeyError Unit → HotkeyManager P κ → List (ProviderCall P) → Prop where
  | rejected (active : manager.active.isSome = true) :
      Starts manager (.error .alreadyStarted) manager []
  | policy {kinds : List ProviderKind} {calls : List (ProviderCall P)}
      {answer : Except HotkeyError P} (inactive : manager.active = none)
      (policy : Policy manager.config manager.environment manager.actions.names kinds calls answer) :
      Starts manager (answer.map fun _ => ()) (manager.started kinds answer) calls

inductive Stops (manager : HotkeyManager P κ) :
    HotkeyManager P κ → List (ProviderCall P) → Prop where
  | idle (inactive : manager.active = none) : Stops manager manager []
  | running {provider : P} (active : manager.active = some provider) :
      Stops manager { manager with active := none, state := .stopped } [.stop provider]

inductive Adds (manager : HotkeyManager P κ) (name : String) (callback : κ) :
    Except HotkeyError Unit → HotkeyManager P κ → List (ProviderCall P) → Prop where
  | known (known : manager.actions.contains name = true) :
      Adds manager name callback (.error (.alreadyRegistered name)) manager []
  | unbound (new : manager.actions.contains name = false)
      (unbound : manager.active = none ∨ manager.config.actionHotkey name = "") :
      Adds manager name callback (.ok ())
        { manager with actions := manager.actions.insert name callback } []
  | refused {provider : P} (new : manager.actions.contains name = false)
      (active : manager.active = some provider) (bound : manager.config.actionHotkey name ≠ "")
      (cause : HotkeyError) :
      Adds manager name callback (.error cause) manager
        [.register provider (manager.config.actionHotkey name) (.action name) (.error cause)]
  | taken {provider ready : P} (new : manager.actions.contains name = false)
      (active : manager.active = some provider) (bound : manager.config.actionHotkey name ≠ "") :
      Adds manager name callback (.ok ())
        { manager with active := some ready, actions := manager.actions.insert name callback }
        [.register provider (manager.config.actionHotkey name) (.action name) (.ok ready)]

inductive Performs (manager : HotkeyManager P κ) :
    ManagerOperation κ → ManagerAnswer → HotkeyManager P κ → List (ProviderCall P) → Prop where
  | start {answer : Except HotkeyError Unit} {after : HotkeyManager P κ}
      {calls : List (ProviderCall P)} (starts : Starts manager answer after calls) :
      Performs manager .start (.started answer) after calls
  | stop {after : HotkeyManager P κ} {calls : List (ProviderCall P)}
      (stops : Stops manager after calls) : Performs manager .stop .done after calls
  | reload {config : HotkeyConfig} {between after : HotkeyManager P κ}
      {answer : Except HotkeyError Unit} {stopping calls : List (ProviderCall P)}
      (stops : Stops manager between stopping)
      (starts : Starts { between with config } answer after calls) :
      Performs manager (.reload config) (.started answer) after (stopping ++ calls)
  | setCallbacks (callbacks : RecordingCallbacks κ) :
      Performs manager (.setCallbacks callbacks) .done (manager.setCallbacks callbacks) []
  | addAction {name : String} {callback : κ} {answer : Except HotkeyError Unit}
      {after : HotkeyManager P κ} {calls : List (ProviderCall P)}
      (adds : Adds manager name callback answer after calls) :
      Performs manager (.addAction name callback) (.added answer) after calls
  | capture (limit : Duration) (answer : Except HotkeyError String) (calls : List (ProviderCall P)) :
      Performs manager (.capture limit) (.captured answer) manager calls
  | probe (supported : Supported) (calls : List (ProviderCall P)) :
      Performs manager .probe (.supported supported) manager calls

variable (providers : Providers World P)

theorem converses_starting (manager : HotkeyManager P κ) :
    ConversesManaged providers (start providers) manager fun answer after calls =>
      Starts manager answer after calls := by
  cases active : manager.active with
  | some provider =>
      have occupied : manager.active.isSome = true := by rw [active]; rfl
      intro world
      rw [start_of_active providers occupied]
      exact ⟨[], .nil world, .rejected occupied⟩
  | none =>
      refine (converses_start providers active).mono ?_
      rintro _ _ calls ⟨kinds, answer, policy, rfl, rfl⟩
      exact .policy active policy

theorem converses_stop (manager : HotkeyManager P κ) :
    ConversesManaged providers (stop providers) manager fun _ after calls =>
      Stops manager after calls := by
  unfold stop
  refine .get ?_
  cases active : manager.active with
  | none => exact .pure (.idle active)
  | some provider =>
      refine .lift (.stop providers provider) fun _ calls made => ?_
      subst made
      exact .modified (.note (.pure (.running active)))

theorem converses_reload (manager : HotkeyManager P κ) (config : HotkeyConfig) :
    ConversesManaged providers (reload providers config) manager fun answer after calls =>
      Performs manager (.reload config) (.started answer) after calls := by
  unfold reload
  refine .note (.bind (converses_stop providers manager) fun _ between stopping stops => ?_)
  exact .modified ((converses_starting providers _).mono fun _ _ _ => .reload stops)

theorem converses_addAction (manager : HotkeyManager P κ) (name : String) (callback : κ) :
    ConversesManaged providers (addAction providers name callback) manager fun answer after calls =>
      Adds manager name callback answer after calls := by
  unfold addAction
  refine .get ?_
  by_cases known : manager.actions.contains name = true
  · rw [if_pos known]
    exact .pure (.known known)
  rw [if_neg known]
  rw [Bool.not_eq_true] at known
  dsimp only
  cases active : manager.active with
  | none => exact .modified (.pure (.unbound known (.inl active)))
  | some provider =>
      dsimp only
      split_ifs with bound
      · refine .lift (.register providers provider _ _) fun answer calls made => ?_
        subst made
        cases answer with
        | error cause => exact .pure (.refused known active (by simpa using bound) cause)
        | ok ready => exact .set (.modified (.pure (.taken known active (by simpa using bound))))
      · exact .modified (.pure (.unbound known (.inr (by simpa using bound))))

theorem converses_capture (manager : HotkeyManager P κ) (limit : Duration) :
    Converses providers (capture providers manager limit) fun _ _ => True := by
  unfold capture capturingProvider?
  have native : Converses providers (capturingProvider? providers manager) fun _ _ => True := by
    unfold capturingProvider?
    cases manager.active with
    | none => exact .pure trivial
    | some provider =>
        refine .bind (.capturesKeys providers provider) fun able _ _ => ?_
        split_ifs
        · exact .pure trivial
        · exact .pure trivial
  refine .bind native fun found _ _ => ?_
  cases found with
  | some provider => exact (Converses.capture providers provider limit).mono fun _ _ _ => trivial
  | none =>
      split_ifs
      · exact .pure trivial
      · refine .log (.bind (.create providers .evdev) fun fresh _ _ => ?_)
        exact (Converses.capture providers fresh limit).mono fun _ _ _ => trivial

theorem converses_perform (manager : HotkeyManager P κ) (operation : ManagerOperation κ) :
    ConversesManaged providers (operation.perform providers) manager fun answer after calls =>
      Performs manager operation answer after calls := by
  cases operation with
  | start => exact .reworded (converses_starting providers manager) fun _ _ _ => .start
  | stop => exact .reworded (converses_stop providers manager) fun _ _ _ => .stop
  | reload config => exact .reworded (converses_reload providers manager config) fun _ _ _ => id
  | setCallbacks callbacks => exact .modified (.pure (.setCallbacks callbacks))
  | addAction name callback =>
      exact .reworded (converses_addAction providers manager name callback) fun _ _ _ => .addAction
  | capture limit =>
      exact .get (.lift (converses_capture providers manager limit) fun answer calls _ =>
        .pure (.capture limit answer _))
  | probe =>
      exact .get (.lift (converses_probe providers manager.environment) fun supported calls _ =>
        .pure (.probe supported _))

section Kept

variable {manager between after : HotkeyManager P κ} {calls : List (ProviderCall P)}

theorem Starts.eq_with {answer : Except HotkeyError Unit} (starts : Starts manager answer after calls) :
    ∃ active state, after = { manager with active, state } := by
  cases starts with
  | rejected active => exact ⟨_, _, rfl⟩
  | @policy kinds calls answer inactive policy => cases answer <;> exact ⟨_, _, rfl⟩

theorem Stops.eq_with (stops : Stops manager after calls) :
    ∃ state, after = { manager with active := none, state } := by
  cases stops with
  | idle inactive => exact ⟨manager.state, by rw [← inactive]⟩
  | running active => exact ⟨_, rfl⟩

theorem Adds.eq_of_error {name : String} {callback : κ} {answer : Except HotkeyError Unit}
    (adds : Adds manager name callback answer after calls) {cause : HotkeyError}
    (rejected : answer = .error cause) : after = manager := by
  cases adds with
  | known known => rfl
  | refused new active bound cause => rfl
  | unbound new unbound => cases rejected
  | taken new active bound => cases rejected

variable {operation : ManagerOperation κ} {answer : ManagerAnswer}

theorem Performs.eq_with (performs : Performs manager operation answer after calls) :
    ∃ active state actions,
      after =
        { manager with
          config := operation.config?.getD manager.config
          callbacks := operation.callbacks?.or manager.callbacks
          active, state, actions } ∧
      (operation.action? = none → actions = manager.actions) := by
  cases performs with
  | start starts =>
      obtain ⟨_, _, rfl⟩ := starts.eq_with
      exact ⟨_, _, _, rfl, fun _ => rfl⟩
  | stop stops =>
      obtain ⟨_, rfl⟩ := stops.eq_with
      exact ⟨_, _, _, rfl, fun _ => rfl⟩
  | reload stops starts =>
      obtain ⟨_, rfl⟩ := stops.eq_with
      obtain ⟨_, _, rfl⟩ := starts.eq_with
      exact ⟨_, _, _, rfl, fun _ => rfl⟩
  | addAction adds => cases adds <;> exact ⟨_, _, _, rfl, fun none => nomatch none⟩
  | setCallbacks callbacks => exact ⟨_, _, _, rfl, fun _ => rfl⟩
  | capture limit answer calls => exact ⟨_, _, _, rfl, fun _ => rfl⟩
  | probe supported calls => exact ⟨_, _, _, rfl, fun _ => rfl⟩

theorem Performs.recording (performs : Performs manager operation answer after calls) :
    after.recording = manager.recording := by
  obtain ⟨_, _, _, rfl, -⟩ := performs.eq_with
  rfl

theorem Performs.callbacks (performs : Performs manager operation answer after calls) :
    after.callbacks = operation.callbacks?.or manager.callbacks := by
  obtain ⟨_, _, _, rfl, -⟩ := performs.eq_with
  rfl

theorem Performs.config (performs : Performs manager operation answer after calls) :
    after.config = operation.config?.getD manager.config := by
  obtain ⟨_, _, _, rfl, -⟩ := performs.eq_with
  rfl

theorem Performs.actions (performs : Performs manager operation answer after calls)
    (addsNone : operation.action? = none) : after.actions = manager.actions := by
  obtain ⟨_, _, actions, rfl, same⟩ := performs.eq_with
  exact same addsNone

end Kept

end HotkeyManager

end GlobalHotkeys
