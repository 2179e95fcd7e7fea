import GlobalHotkeys.Proofs.Provider.Watched

namespace GlobalHotkeys

variable {World P κ : Type} (providers : Providers World P)

namespace HotkeyManager

theorem erases_note (level : LogLevel) (message : String) :
    ErasesManaged id (note level message : Managed (Watched World) (Numbered P) κ Unit)
      (note level message) :=
  .lift (.log _ _)

theorem erases_probe (environment : Environment) :
    Erases id (probe providers.watched environment) (probe providers environment) := by
  unfold probe
  generalize candidateOrder environment.runtime = kinds
  generalize ({} : Supported) = supported
  induction kinds generalizing supported with
  | nil => exact .pure _ _
  | cons kind rest ih =>
      rw [List.foldlM_cons, List.foldlM_cons]
      refine .bindSame ?_ ih
      refine .bind (.created providers kind) fun numbered => ?_
      refine .bind (.recorded _ _ _) fun answer => ?_
      exact .bind (.log _ _) fun _ => .pure id _

theorem erases_select (config : HotkeyConfig) (environment : Environment) :
    Erases id (select providers.watched config environment)
      (select providers config environment) := by
  unfold select
  dsimp only
  split_ifs with free
  · refine .bindSame (erases_probe providers environment) fun supported => ?_
    exact .bind (.log _ _) fun _ => .pure id _
  · refine .bind (.log _ _) fun _ => .bindSame (.pure id _) fun supported => ?_
    exact .bind (.log _ _) fun _ => .pure id _

theorem erases_registerActions (config : HotkeyConfig) (names : List String)
    (numbered : Numbered P) :
    Erases Numbered.provider (registerActions providers.watched config names numbered)
      (registerActions providers config names numbered.provider) := by
  induction names generalizing numbered with
  | nil => exact .pure _ _
  | cons name rest ih =>
      unfold registerActions
      dsimp only
      split_ifs with unset
      · exact .bind (.log _ _) fun _ => ih numbered
      · refine .bind (.answered _ _ _) fun answer => ?_
        cases answer with
        | ok numbered => exact ih numbered
        | error cause => exact .bind (.log _ _) fun _ => ih numbered

theorem erases_registerAll (manager : HotkeyManager (Numbered P) κ) (numbered : Numbered P) :
    Erases (Except.map Numbered.provider) (registerAll providers.watched manager numbered)
      (registerAll providers manager.unwatched numbered.provider) := by
  unfold registerAll
  refine .bind (.answered _ _ _) fun answer => ?_
  cases answer with
  | error cause => exact .pure _ _
  | ok numbered =>
      refine .bind (erases_registerActions providers _ _ numbered) fun ready => ?_
      exact .pure (Except.map Numbered.provider) _

theorem erases_attempt (kind : ProviderKind) :
    ErasesManaged id
      (attempt providers.watched kind : Managed (Watched World) (Numbered P) κ _)
      (attempt providers kind) := by
  unfold attempt
  refine .bind (.lift (.created providers kind)) fun fresh => ?_
  refine .bind .get fun manager => ?_
  refine .bind (.lift (erases_registerAll providers manager fresh)) fun answer => ?_
  cases answer with
  | error cause => exact .pure _ _
  | ok ready =>
      refine .bind (.modified fun _ => rfl) fun _ => ?_
      refine .bind (.lift (.answered _ _ _)) fun answer => ?_
      cases answer with
      | error cause => exact .pure _ _
      | ok running =>
          refine .bind (.modified fun _ => rfl) fun _ => ?_
          refine .bind .get fun manager => ?_
          exact .bind (erases_note _ _) fun _ => .pure _ _

theorem erases_fail (cause : HotkeyError) :
    ErasesManaged id (fail cause : Managed (Watched World) (Numbered P) κ _) (fail cause) := by
  unfold fail
  refine .bind (.modified fun _ => rfl) fun _ => ?_
  exact .bind (erases_note _ _) fun _ => .pure _ _

theorem erases_start :
    ErasesManaged id (start providers.watched : Managed (Watched World) (Numbered P) κ _)
      (start providers) := by
  unfold start
  refine .bind .get fun manager => ?_
  have runs : manager.unwatched.active.isSome = manager.active.isSome := Option.isSome_map
  rw [runs]
  split_ifs with active
  · exact .pure _ _
  refine .bind (.lift (erases_select providers _ _)) fun primary => ?_
  refine .bind (erases_attempt providers primary) fun answer => ?_
  cases answer with
  | ok _ => exact .pure _ _
  | error cause =>
      refine .bind (erases_note _ _) fun _ => ?_
      have next : manager.unwatched.fallback? primary = manager.fallback? primary := rfl
      dsimp only [id]
      rw [next]
      cases manager.fallback? primary with
      | none => exact erases_fail cause
      | some second =>
          refine .bind (.lift (.created providers second)) fun numbered => ?_
          refine .bind (.lift (.recorded _ _ _)) fun works => ?_
          dsimp only [id]
          split_ifs with able
          · refine .bind (erases_note _ _) fun _ => ?_
            refine .bind (.modified fun _ => rfl) fun _ => ?_
            refine .bind (erases_attempt providers second) fun answer => ?_
            cases answer with
            | ok _ => exact .pure _ _
            | error cause => exact .bind (erases_note _ _) fun _ => erases_fail cause
          · exact .bind (erases_note _ _) fun _ => erases_fail cause

theorem erases_stop :
    ErasesManaged id (stop providers.watched : Managed (Watched World) (Numbered P) κ _)
      (stop providers) := by
  unfold stop
  refine .bind .get fun manager => ?_
  have active : manager.unwatched.active = manager.active.map Numbered.provider := rfl
  rw [active]
  cases manager.active with
  | none => exact .pure _ _
  | some numbered =>
      refine .bind (.lift (.recorded _ _ _)) fun _ => ?_
      exact .bind (.modified fun _ => rfl) fun _ => erases_note _ _

theorem erases_reload (config : HotkeyConfig) :
    ErasesManaged id (reload providers.watched config : Managed (Watched World) (Numbered P) κ _)
      (reload providers config) := by
  unfold reload
  refine .bind (erases_note _ _) fun _ => ?_
  refine .bind (erases_stop providers) fun _ => ?_
  exact .bind (.modified fun _ => rfl) fun _ => erases_start providers

theorem erases_addAction (name : String) (callback : κ) :
    ErasesManaged id
      (addAction providers.watched name callback : Managed (Watched World) (Numbered P) κ _)
      (addAction providers name callback) := by
  unfold addAction
  refine .bind .get fun manager => ?_
  have active : manager.unwatched.active = manager.active.map Numbered.provider := rfl
  have config : manager.unwatched.config = manager.config := rfl
  have actions : manager.unwatched.actions = manager.actions := rfl
  rw [active, config, actions]
  by_cases known : manager.actions.contains name = true
  · rw [if_pos known, if_pos known]
    exact .pure _ _
  rw [if_neg known, if_neg known]
  dsimp only
  cases manager.active with
  | none => exact .bind (.modified fun _ => rfl) fun _ => .pure _ _
  | some numbered =>
      dsimp only [Option.map_some]
      split_ifs with bound
      · refine .bind (.lift (.answered _ _ _)) fun answer => ?_
        cases answer with
        | error cause => exact .pure _ _
        | ok ready =>
            refine .bind (.set _) fun _ => ?_
            exact .bind (.modified fun _ => rfl) fun _ => .pure _ _
      · exact .bind (.modified fun _ => rfl) fun _ => .pure _ _

theorem erases_capturingProvider? (manager : HotkeyManager (Numbered P) κ) :
    Erases (Option.map Numbered.provider) (capturingProvider? providers.watched manager)
      (capturingProvider? providers manager.unwatched) := by
  unfold capturingProvider?
  have active : manager.unwatched.active = manager.active.map Numbered.provider := rfl
  rw [active]
  cases manager.active with
  | none => exact .pure (Option.map Numbered.provider) _
  | some numbered =>
      refine .bind (.recorded _ _ _) fun able => ?_
      dsimp only [id]
      split_ifs
      · exact .pure (Option.map Numbered.provider) _
      · exact .pure (Option.map Numbered.provider) _

theorem erases_capture (manager : HotkeyManager (Numbered P) κ) (limit : Duration) :
    Erases id (capture providers.watched manager limit)
      (capture providers manager.unwatched limit) := by
  unfold capture
  refine .bind (erases_capturingProvider? providers manager) fun native => ?_
  cases native with
  | some numbered => exact .recorded _ _ _
  | none =>
      have names : activeName? providers manager.unwatched =
          activeName? providers.watched manager := Option.map_map ..
      have environment : manager.unwatched.environment = manager.environment := rfl
      dsimp only [Option.map_none]
      rw [names, environment]
      split_ifs with sandboxed
      · exact .pure id _
      · refine .bind (.log _ _) fun _ => ?_
        exact .bind (.created providers .evdev) fun numbered => .recorded _ _ _

end HotkeyManager

end GlobalHotkeys
