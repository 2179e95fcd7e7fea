import Mathlib.Data.List.Nodup
import GlobalHotkeys.Proofs.Portal.Session

namespace GlobalHotkeys

namespace PortalProvider

open Portal

variable {World β : Type}

theorem tapes_start (bus : Bus World) {provider : PortalProvider β}
    (idle : provider.isListening = false) :
    TapesAttempt (provider.start bus.taped) (provider.start bus) (orProtocol fun started tape =>
      ∃ session, started = { provider with session := some session } ∧
        Opened provider.ids session tape) := by
  unfold start
  rw [idle]
  refine (tapes_openSession bus provider.ids).bind (fun cause acts failed => failed) ?_
  intro session tape opened
  exact .pure ⟨session, rfl, by rwa [List.append_nil]⟩

theorem start_of_listening (bus : Bus World) {provider : PortalProvider β}
    (listening : provider.isListening = true) (world : World) :
    (provider.start bus).run world = { value := .error .alreadyStarted, world } := by
  unfold start
  rw [listening]
  rfl

theorem start_granting {provider : PortalProvider β} (idle : provider.isListening = false)
    (world : World) :
    ((provider.start granting).run world).value =
      .ok { provider with session := some { handle := "/session", owner := ":1.1" } } := by
  unfold start
  rw [idle]
  exact Yields.bind _ (yields_openSession provider.ids) (fun _ => rfl) world

inductive Step (World β : Type) where
  | register (hotkey : String) (binding : β)
  | start (bus : Bus World) (world : World)
  | stop
  | hear (delivery : Delivery)

def afterAnswer (provider : PortalProvider β) :
    Except HotkeyError (PortalProvider β) → PortalProvider β
  | .ok after => after
  | .error _ => provider

def step (provider : PortalProvider β) : Step World β → PortalProvider β
  | .register hotkey binding => provider.afterAnswer (provider.register hotkey binding)
  | .start bus world => provider.afterAnswer ((provider.start bus).run world).value
  | .stop => provider.stop
  | .hear delivery => (provider.hear delivery).2

def after (steps : List (Step World β)) : PortalProvider β :=
  steps.foldl step {}

theorem register_eq_ok_iff {provider after : PortalProvider β} {hotkey : String} {binding : β} :
    provider.register hotkey binding = .ok after ↔
      normalizeHotkey hotkey ≠ "" ∧ normalizeHotkey hotkey ∉ provider.ids ∧
        after = { provider with table := provider.table ++ [(normalizeHotkey hotkey, binding)] } := by
  simp only [register, beq_iff_eq, List.contains_eq_mem, decide_eq_true_eq]
  split_ifs with empty taken
  · simp [empty]
  · simp [taken]
  · simp [empty, taken, eq_comm]

theorem register_taken {provider : PortalProvider β} {hotkey : String} (binding : β)
    (nonempty : normalizeHotkey hotkey ≠ "") (taken : normalizeHotkey hotkey ∈ provider.ids) :
    provider.register hotkey binding = .error (.alreadyRegistered (normalizeHotkey hotkey)) := by
  unfold register
  rw [if_neg (by simpa using nonempty), if_pos (List.contains_iff_mem.mpr taken)]

theorem table_of_hear (provider : PortalProvider β) (delivery : Delivery) :
    (provider.hear delivery).2.table = provider.table := by
  unfold hear
  cases provider.session with
  | none => rfl
  | some session =>
      dsimp only
      split
      · split <;> rfl
      · rfl

theorem table_of_start {provider started : PortalProvider β} {bus : Bus World} {world : World}
    (ok : ((provider.start bus).run world).value = .ok started) : started.table = provider.table := by
  cases listening : provider.isListening with
  | true =>
      rw [start_of_listening bus listening] at ok
      cases ok
  | false =>
      obtain ⟨same, ends⟩ := (tapes_start bus listening).run world
      rw [← congrArg Outcome.value same, ok] at ends
      obtain ⟨session, rfl, -⟩ := ends
      rfl

theorem nodup_ids_step {provider : PortalProvider β} (distinct : provider.ids.Nodup)
    (next : Step World β) : (provider.step next).ids.Nodup := by
  cases next with
  | register hotkey binding =>
      rw [step]
      cases answer : provider.register hotkey binding with
      | error cause => exact distinct
      | ok after =>
          obtain ⟨-, fresh, rfl⟩ := register_eq_ok_iff.mp answer
          rw [afterAnswer, ids, List.map_append]
          exact distinct.append (List.nodup_singleton _) (List.disjoint_singleton.mpr fresh)
  | start bus world =>
      rw [step]
      cases answer : ((provider.start bus).run world).value with
      | error cause => exact distinct
      | ok started =>
          rw [afterAnswer, ids, table_of_start answer]
          exact distinct
  | stop => exact distinct
  | hear delivery =>
      rw [step, ids, table_of_hear]
      exact distinct

theorem nodup_ids_after (steps : List (Step World β)) : (after steps).ids.Nodup := by
  have kept (provider : PortalProvider β) (distinct : provider.ids.Nodup) :
      (steps.foldl step provider).ids.Nodup := by
    induction steps generalizing provider with
    | nil => exact distinct
    | cons next rest ih => exact ih _ (nodup_ids_step distinct next)
  exact kept {} List.nodup_nil

/-- A start of an idle provider that succeeds has made two requests of the portal that were granted: one
created the session, and a later one bound in it every id of the table, each once. One that fails, on
whatever bus, fails with an error of the protocol and leaves the provider as it was, so that a later one
can succeed. A start while listening touches neither the bus nor the provider. -/
theorem start_opens_session (steps : List (Step World β)) (bus : Bus World) (world : World) :
    let provider := after steps
    let plain := (provider.start bus).run world
    let run := (provider.start bus.taped).run { world }
    let next := after (steps ++ [.start bus world])
    plain = { value := run.value, world := run.world.world, log := run.log } ∧
    (provider.isListening = true →
      run = { value := .error .alreadyStarted, world := { world } } ∧ next = provider) ∧
    (provider.isListening = false → ∀ started, run.value = .ok started →
      next = started ∧ started.isListening = true ∧ started.table = provider.table ∧
      ∃ session, started.session = some session ∧ Opened provider.ids session run.world.tape ∧
        provider.ids.Nodup ∧
        ∃ requestToken sessionToken bindToken shortcuts,
          run.world.tape.filterMap BusAct.call? =
            [.nameOwner busName, .createSession requestToken sessionToken,
              .bindShortcuts session.handle shortcuts "" bindToken]) ∧
    (provider.isListening = false → ∀ cause, run.value = .error cause →
      (∃ reason, cause = .protocol reason) ∧ next = provider ∧
      ∃ later, (after (steps ++ [.start bus world, .start later world])).isListening = true) := by
  intro provider plain run next
  have stepped : next = provider.step (.start bus world) := List.foldl_append
  have next_eq : next = provider.afterAnswer plain.value := stepped
  cases listening : provider.isListening with
  | true =>
      have refused : plain = { value := .error .alreadyStarted, world } :=
        start_of_listening bus listening world
      have refusedTaped : run = { value := .error .alreadyStarted, world := { world } } :=
        start_of_listening bus.taped listening { world }
      rw [next_eq, refused, refusedTaped]
      exact ⟨rfl, fun _ => ⟨rfl, rfl⟩, nofun, nofun⟩
  | false =>
      obtain ⟨same, ends⟩ := (tapes_start bus listening).run world
      have next_eq : next = provider.afterAnswer run.value :=
        next_eq.trans (congrArg (fun outcome => provider.afterAnswer outcome.value) same)
      refine ⟨same, nofun, fun _ started ok => ?_, fun _ cause failed => ?_⟩
      · rw [show ((provider.start bus.taped).run { world }).value = _ from ok] at ends
        rw [ok] at next_eq
        obtain ⟨session, rfl, opened⟩ := ends
        exact ⟨next_eq, rfl, rfl, session, rfl, opened, nodup_ids_after steps, opened.calls⟩
      · rw [show ((provider.start bus.taped).run { world }).value = _ from failed] at ends
        rw [failed] at next_eq
        -- On a bus that grants every request the next start succeeds.
        refine ⟨ends, next_eq, granting, ?_⟩
        have again : after (steps ++ [.start bus world, .start granting world]) =
            (provider.step (.start bus world)).step (.start granting world) :=
          List.foldl_append
        rw [again, ← stepped, next_eq, step, afterAnswer, start_granting listening]
        rfl

end PortalProvider

end GlobalHotkeys
