import GlobalHotkeys.Proofs.Provider.Watched

namespace GlobalHotkeys

variable {World P κ α β : Type}

def Run.muted (step : Run World α) : Run World α := fun now =>
  { step now with log := [] }

def Providers.muted (providers : Providers World P) : Providers World P where
  create kind := (providers.create kind).muted
  name := providers.name
  isSupported provider := (providers.isSupported provider).muted
  register provider hotkey binding := (providers.register provider hotkey binding).muted
  start provider := (providers.start provider).muted
  stop provider := (providers.stop provider).muted
  capturesKeys provider := (providers.capturesKeys provider).muted
  capture provider limit := (providers.capture provider limit).muted

def Fainter (quiet loud : Run World α) : Prop :=
  ∀ now, (quiet now).value = (loud now).value ∧ (quiet now).world = (loud now).world ∧
    (quiet now).log.Sublist (loud now).log

namespace Fainter

theorem refl (step : Run World α) : Fainter step step :=
  fun _ => ⟨rfl, rfl, List.Sublist.refl _⟩

theorem muted (step : Run World α) : Fainter step.muted step :=
  fun _ => ⟨rfl, rfl, List.nil_sublist _⟩

theorem bind {quiet loud : Run World α} {quietNext loudNext : α → Run World β} (first : Fainter quiet loud)
    (second : ∀ value, Fainter (quietNext value) (loudNext value)) :
    Fainter (quiet >>= quietNext) (loud >>= loudNext) := by
  intro now
  obtain ⟨value, world, log⟩ := first now
  rw [Run.bind_apply, Run.bind_apply, value, world]
  obtain ⟨valueLater, worldLater, logLater⟩ := second (loud now).value (loud now).world
  exact ⟨valueLater, worldLater, log.append logLater⟩

end Fainter

def FainterManaged (quiet loud : Managed World P κ α) : Prop :=
  ∀ manager, Fainter (quiet manager) (loud manager)

namespace FainterManaged

theorem refl (step : Managed World P κ α) : FainterManaged step step :=
  fun _ => .refl _

theorem bind {quiet loud : Managed World P κ α} {quietNext loudNext : α → Managed World P κ β}
    (first : FainterManaged quiet loud)
    (second : ∀ value, FainterManaged (quietNext value) (loudNext value)) :
    FainterManaged (quiet >>= quietNext) (loud >>= loudNext) :=
  fun manager => Fainter.bind (first manager) fun after => second after.1 after.2

theorem lift {quiet loud : Run World α} (fainter : Fainter quiet loud) :
    FainterManaged (StateT.lift quiet : Managed World P κ α) (StateT.lift loud) :=
  fun _ => fainter.bind fun _ => .refl _

end FainterManaged

namespace HotkeyManager

variable (providers : Providers World P)

theorem fainter_probe (environment : Environment) :
    Fainter (probe providers.muted environment) (probe providers environment) := by
  unfold probe
  generalize candidateOrder environment.runtime = kinds
  generalize ({} : Supported) = supported
  induction kinds generalizing supported with
  | nil => exact .refl _
  | cons kind rest ih =>
      rw [List.foldlM_cons, List.foldlM_cons]
      refine .bind ?_ ih
      exact .bind (.muted _) fun fresh => .bind (.muted _) fun answer => .refl _

theorem fainter_select (config : HotkeyConfig) (environment : Environment) :
    Fainter (select providers.muted config environment) (select providers config environment) := by
  unfold select
  dsimp only
  split_ifs with free
  · exact .bind (fainter_probe providers environment) fun _ => .refl _
  · exact .refl _

theorem fainter_registerActions (config : HotkeyConfig) (names : List String) (provider : P) :
    Fainter (registerActions providers.muted config names provider)
      (registerActions providers config names provider) := by
  induction names generalizing provider with
  | nil => exact .refl _
  | cons name rest ih =>
      unfold registerActions
      dsimp only
      split_ifs with unset
      · exact .bind (.refl _) fun _ => ih provider
      · refine .bind (.muted _) fun answer => ?_
        cases answer with
        | ok ready => exact ih ready
        | error cause => exact .bind (.refl _) fun _ => ih provider

theorem fainter_registerAll (manager : HotkeyManager P κ) (provider : P) :
    Fainter (registerAll providers.muted manager provider) (registerAll providers manager provider) := by
  unfold registerAll
  refine .bind (.muted _) fun answer => ?_
  cases answer with
  | error cause => exact .refl _
  | ok ready => exact .bind (fainter_registerActions providers _ _ ready) fun _ => .refl _

theorem fainter_attempt (kind : ProviderKind) :
    FainterManaged (attempt providers.muted kind : Managed World P κ _) (attempt providers kind) := by
  unfold attempt
  refine .bind (.lift (.muted _)) fun fresh => .bind (.refl _) fun manager => ?_
  refine .bind (.lift (fainter_registerAll providers manager fresh)) fun answer => ?_
  cases answer with
  | error cause => exact .refl _
  | ok ready => exact .bind (.refl _) fun _ => .bind (.lift (.muted _)) fun answer => .refl _

theorem fainter_start :
    FainterManaged (start providers.muted : Managed World P κ _) (start providers) := by
  unfold start
  refine .bind (.refl _) fun manager => ?_
  split_ifs with busy
  · exact .refl _
  refine .bind (.lift (fainter_select providers _ _)) fun primary => ?_
  refine .bind (fainter_attempt providers primary) fun answer => ?_
  cases answer with
  | ok _ => exact .refl _
  | error cause =>
      refine .bind (.refl _) fun _ => ?_
      cases manager.fallback? primary with
      | none => exact .refl _
      | some second =>
          refine .bind (.lift (.muted _)) fun fresh => .bind (.lift (.muted _)) fun works => ?_
          split_ifs with able
          · refine .bind (.refl _) fun _ => .bind (.refl _) fun _ => ?_
            exact .bind (fainter_attempt providers second) fun answer => .refl _
          · exact .refl _

end HotkeyManager

def skipWarning (name hotkey : String) (cause : HotkeyError) : LogLine :=
  { level := .warn, message := s!"Skipping action '{name}' ({hotkey}): {cause.message}" }

def LogLine.skips (line : LogLine) : Bool :=
  line.level = .warn && "Skipping action '".toList.isPrefixOf line.message.toList

def ProviderUse.warning? : ProviderUse → Option LogLine
  | register hotkey (.action name) (some cause) => some (skipWarning name hotkey cause)
  | _ => none

def dueWarnings (uses : List NumberedUse) : List LogLine :=
  uses.filterMap fun use => use.2.warning?

theorem skips_skipWarning (name hotkey : String) (cause : HotkeyError) :
    (skipWarning name hotkey cause).skips = true := by
  unfold skipWarning LogLine.skips
  simp only [decide_true, Bool.true_and, List.isPrefixOf_iff_prefix, String.toList_append,
    List.append_assoc]
  exact List.prefix_append _ _

theorem skips_failedMessage (kind : ProviderKind) (cause : HotkeyError) :
    LogLine.skips ⟨.warn, HotkeyManager.failedMessage kind cause⟩ = false := by
  unfold HotkeyManager.failedMessage LogLine.skips
  cases kind <;> simp [ProviderKind.name, toString, List.isPrefixOf]

theorem skips_of_level {level : LogLevel} (lower : level ≠ .warn) (message : String) :
    LogLine.skips ⟨level, message⟩ = false := by
  simp [LogLine.skips, lower]

/-- If these warnings are owed before the step, it logs them and those that what it does with providers
calls for, in this order and no other, but for those that its answer still owes. -/
def Warns (owed : List LogLine) (step : Run (Watched World) α) (owing : α → List LogLine) : Prop :=
  ∀ now, ∃ added, (step now).world.uses = now.uses ++ added ∧
    (step now).log.filter LogLine.skips ++ owing (step now).value = owed ++ dueWarnings added

abbrev Settles (step : Run (Watched World) α) : Prop :=
  Warns [] step fun _ => []

namespace Warns

variable {owed between : List LogLine} {owing : β → List LogLine}

theorem pure (value : α) : Settles (Pure.pure value : Run (Watched World) α) :=
  fun now => ⟨[], (List.append_nil now.uses).symm, rfl⟩

theorem bind {step : Run (Watched World) α} {next : α → Run (Watched World) β}
    {midway : α → List LogLine} (first : Warns owed step midway)
    (second : ∀ value, Warns (midway value) (next value) owing) : Warns owed (step >>= next) owing := by
  intro now
  obtain ⟨added, uses, due⟩ := first now
  obtain ⟨later, usesLater, dueLater⟩ := second (step now).value (step now).world
  refine ⟨added ++ later, ?_, ?_⟩
  · rw [Run.bind_apply, usesLater, uses, List.append_assoc]
  · rw [Run.bind_apply, List.filter_append, List.append_assoc, dueLater, ← List.append_assoc, due,
      List.append_assoc, dueWarnings, dueWarnings, dueWarnings, List.filterMap_append]

theorem log {level : LogLevel} {message : String} (other : LogLine.skips ⟨level, message⟩ = false)
    {next : Unit → Run (Watched World) β} (second : Warns owed (next ()) owing) :
    Warns owed (Run.log level message >>= next) owing := by
  intro now
  obtain ⟨added, uses, due⟩ := second now
  refine ⟨added, uses, ?_⟩
  rw [← due]
  exact congrArg (· ++ _) (List.filter_cons_of_neg (by simp [other]))

theorem paid (name hotkey : String) (cause : HotkeyError) {next : Unit → Run (Watched World) β}
    (second : Warns owed (next ()) owing) :
    Warns (skipWarning name hotkey cause :: owed)
      (Run.log .warn (skipWarning name hotkey cause).message >>= next) owing := by
  intro now
  obtain ⟨added, uses, due⟩ := second now
  refine ⟨added, uses, ?_⟩
  rw [List.cons_append, ← due]
  exact congrArg (· ++ _) (List.filter_cons_of_pos (skips_skipWarning name hotkey cause))

theorem recorded (number : Nat) {use : α → ProviderUse} {answer : α → β} (step : Run World α)
    (owes : ∀ value, owing (answer value) = (use value).warning?.toList) :
    Warns [] (recorded number use answer step).muted owing := by
  intro now
  refine ⟨[(number, use (step now.world).value)], rfl, (owes _).trans ?_⟩
  cases called : (use (step now.world).value).warning? <;> simp [dueWarnings, called]

end Warns

theorem Settles.bind {step : Run (Watched World) α} {next : α → Run (Watched World) β}
    (first : Settles step) (second : ∀ value, Settles (next value)) : Settles (step >>= next) :=
  Warns.bind first second

section Calls

variable (providers : Providers World P)

theorem warns_create (kind : ProviderKind) : Settles (providers.watched.muted.create kind) := by
  intro now
  have settles : Settles (recorded (creations now.uses) (fun _ => .create kind)
      (fun provider => Numbered.mk provider (creations now.uses)) (providers.create kind)).muted :=
    .recorded _ _ fun _ => rfl
  exact settles now

theorem warns_isSupported (numbered : Numbered P) :
    Settles (providers.watched.muted.isSupported numbered) :=
  .recorded _ _ fun _ => rfl

theorem warns_start (numbered : Numbered P) : Settles (providers.watched.muted.start numbered) :=
  .recorded _ _ fun _ => rfl

theorem warns_register_recording (numbered : Numbered P) (hotkey : String) :
    Settles (providers.watched.muted.register numbered hotkey .recording) :=
  .recorded _ _ fun answer => by cases failure? answer <;> rfl

def owedAfter (name hotkey : String) (answer : Except HotkeyError (Numbered P)) : List LogLine :=
  ((failure? answer).map (skipWarning name hotkey)).toList

theorem warns_register_action (numbered : Numbered P) (hotkey name : String) :
    Warns [] (providers.watched.muted.register numbered hotkey (.action name))
      (owedAfter name hotkey) :=
  .recorded _ _ fun answer => by cases answer <;> rfl

end Calls

namespace HotkeyManager

variable (providers : Providers World P)

theorem settles_probe (environment : Environment) :
    Settles (probe providers.watched.muted environment) := by
  unfold probe
  generalize candidateOrder environment.runtime = kinds
  generalize ({} : Supported) = supported
  induction kinds generalizing supported with
  | nil => exact .pure _
  | cons kind rest ih =>
      rw [List.foldlM_cons]
      refine .bind ?_ ih
      refine .bind (warns_create providers kind) fun fresh => ?_
      refine .bind (warns_isSupported providers fresh) fun answer => ?_
      exact .log (skips_of_level (by decide) _) (.pure _)

theorem settles_select (config : HotkeyConfig) (environment : Environment) :
    Settles (select providers.watched.muted config environment) := by
  unfold select
  dsimp only
  split_ifs with free
  · exact .bind (settles_probe providers environment) fun _ => .log (skips_of_level (by decide) _) (.pure _)
  · refine .log (skips_of_level (by decide) _) (.bind (.pure _) fun _ => ?_)
    exact .log (skips_of_level (by decide) _) (.pure _)

theorem settles_registerActions (config : HotkeyConfig) (names : List String) (numbered : Numbered P) :
    Settles (registerActions providers.watched.muted config names numbered) := by
  induction names generalizing numbered with
  | nil => exact .pure _
  | cons name rest ih =>
      unfold registerActions
      dsimp only
      split_ifs with unset
      · exact .log (skips_of_level (by decide) _) (ih numbered)
      · refine Warns.bind (warns_register_action providers numbered _ name) fun answer => ?_
        cases answer with
        | ok ready => exact ih ready
        | error cause => exact .paid name _ cause (ih numbered)

theorem settles_registerAll (manager : HotkeyManager (Numbered P) κ) (numbered : Numbered P) :
    Settles (registerAll providers.watched.muted manager numbered) := by
  unfold registerAll
  refine .bind (warns_register_recording providers numbered _) fun answer => ?_
  cases answer with
  | error cause => exact .pure _
  | ok ready => exact .bind (settles_registerActions providers _ _ ready) fun _ => .pure _

def SettlesManaged (step : Managed (Watched World) P κ α) : Prop :=
  ∀ manager, Settles (step manager)

namespace SettlesManaged

theorem pure (value : α) : SettlesManaged (Pure.pure value : Managed (Watched World) P κ α) :=
  fun _ => .pure _

theorem bind {step : Managed (Watched World) P κ α} {next : α → Managed (Watched World) P κ β}
    (first : SettlesManaged step) (second : ∀ value, SettlesManaged (next value)) :
    SettlesManaged (step >>= next) :=
  fun manager => Warns.bind (first manager) fun after => second after.1 after.2

theorem lift {step : Run (Watched World) α} (settles : Settles step) :
    SettlesManaged (StateT.lift step : Managed (Watched World) P κ α) :=
  fun _ => Warns.bind settles fun _ => .pure _

theorem get : SettlesManaged (MonadState.get : Managed (Watched World) P κ _) :=
  fun _ => .pure _

theorem modified (update : HotkeyManager P κ → HotkeyManager P κ) :
    SettlesManaged (modify update : Managed (Watched World) P κ Unit) :=
  fun _ => .pure _

theorem note {level : LogLevel} {message : String} (other : LogLine.skips ⟨level, message⟩ = false) :
    SettlesManaged (HotkeyManager.note level message : Managed (Watched World) P κ Unit) :=
  fun _ => .log other (.pure _)

end SettlesManaged

theorem settles_attempt (kind : ProviderKind) :
    SettlesManaged
      (attempt providers.watched.muted kind : Managed (Watched World) (Numbered P) κ _) := by
  unfold attempt
  refine .bind (.lift (warns_create providers kind)) fun fresh => .bind .get fun manager => ?_
  refine .bind (.lift (settles_registerAll providers manager fresh)) fun answer => ?_
  cases answer with
  | error cause => exact .pure _
  | ok ready =>
      refine .bind (.modified _) fun _ => .bind (.lift (warns_start providers ready)) fun answer => ?_
      cases answer with
      | error cause => exact .pure _
      | ok running =>
          refine .bind (.modified _) fun _ => .bind .get fun manager => ?_
          exact .bind (.note (skips_of_level (by decide) _)) fun _ => .pure _

theorem settles_fail (cause : HotkeyError) :
    SettlesManaged (fail cause : Managed (Watched World) P κ _) :=
  .bind (.modified _) fun _ => .bind (.note (skips_of_level (by decide) _)) fun _ => .pure _

theorem settles_start :
    SettlesManaged (start providers.watched.muted : Managed (Watched World) (Numbered P) κ _) := by
  unfold start
  refine .bind .get fun manager => ?_
  split_ifs with busy
  · exact .pure _
  refine .bind (.lift (settles_select providers _ _)) fun primary => ?_
  refine .bind (settles_attempt providers primary) fun answer => ?_
  cases answer with
  | ok _ => exact .pure _
  | error cause =>
      refine .bind (.note (skips_failedMessage primary cause)) fun _ => ?_
      cases manager.fallback? primary with
      | none => exact settles_fail cause
      | some second =>
          refine .bind (.lift (warns_create providers second)) fun fresh => ?_
          refine .bind (.lift (warns_isSupported providers fresh)) fun works => ?_
          split_ifs with able
          · refine .bind (.note (skips_of_level (by decide) _)) fun _ => .bind (.modified _) fun _ => ?_
            refine .bind (settles_attempt providers second) fun answer => ?_
            cases answer with
            | ok _ => exact .pure _
            | error cause =>
                exact .bind (.note (skips_failedMessage second cause)) fun _ => settles_fail cause
          · exact .bind (.note (skips_of_level (by decide) _)) fun _ => settles_fail cause

theorem skipped_start {manager : HotkeyManager (Numbered P) κ} {now : Watched World} {added : List NumberedUse}
    (uses : (start providers.watched manager now).world.uses = now.uses ++ added) :
    (start providers.watched.muted manager now).log.filter LogLine.skips = dueWarnings added := by
  obtain ⟨done, usesMuted, due⟩ := settles_start providers manager now
  rw [(fainter_start providers.watched manager now).2.1, uses] at usesMuted
  obtain rfl := List.append_cancel_left usesMuted
  rwa [List.append_nil] at due

end HotkeyManager

end GlobalHotkeys
