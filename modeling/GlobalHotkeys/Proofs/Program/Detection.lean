import GlobalHotkeys.Program.Basic
import GlobalHotkeys.Proofs.Manager.Sandbox

namespace GlobalHotkeys

variable {World P κ : Type}

inductive Proceeds (config : HotkeyConfig) (actions : List String) (fallback : Option ProviderKind) :
    (first : Except HotkeyError P) → List (ProviderCall P) → (last : Except HotkeyError P) → Prop where
  | success (running : P) : Proceeds config actions fallback (.ok running) [] (.ok running)
  | alone (cause : HotkeyError) (missing : fallback = none) :
      Proceeds config actions fallback (.error cause) [] (.error cause)
  | unable (cause : HotkeyError) {second : ProviderKind} (allowed : fallback = some second) (fresh : P) :
      Proceeds config actions fallback (.error cause)
        [.create second fresh, .probe fresh false] (.error cause)
  | second (cause : HotkeyError) {second : ProviderKind} (allowed : fallback = some second) (fresh : P)
      {later : List (ProviderCall P)} {last : Except HotkeyError P}
      (again : Attempts config actions second later last) :
      Proceeds config actions fallback (.error cause)
        (.create second fresh :: .probe fresh true :: later) last

section Course

variable {config : HotkeyConfig} {environment : Environment} {actions : List String}

theorem Proceeds.fallback_iff {fallback : Option ProviderKind} {cause : HotkeyError}
    {rest : List (ProviderCall P)} {last : Except HotkeyError P} (kind : ProviderKind)
    (proceeds : Proceeds config actions fallback (.error cause) rest last) :
    fallback = some kind ↔ kind ∈ created rest := by
  cases proceeds with
  | alone cause missing => simp [missing]
  | unable cause allowed fresh => simp [allowed, ProviderCall.created?, eq_comm]
  | second cause allowed fresh again =>
      simp [allowed, ProviderCall.created?, again.created_eq, eq_comm]

theorem Policy.proceeds {kinds : List ProviderKind} {calls : List (ProviderCall P)}
    {last : Except HotkeyError P} (policy : Policy config environment actions kinds calls last) :
    ∃ primary choosing attempt first rest, calls = choosing ++ (attempt ++ rest) ∧
      Chooses config environment choosing primary ∧ Attempts config actions primary attempt first ∧
      Proceeds config actions
        (if config.provider = .auto then fallbackFor primary environment else none) first rest last := by
  cases policy with
  | @success primary choosing attempt running chooses attempts =>
      exact ⟨primary, choosing, attempt, _, [], by simp, chooses, attempts, .success running⟩
  | @alone primary choosing attempt cause chooses attempts alone =>
      refine ⟨primary, choosing, attempt, _, [], by simp, chooses, attempts, .alone cause ?_⟩
      rcases alone with fixed | missing
      · rw [if_neg fixed]
      · rw [missing, ite_self]
  | @unable primary second choosing attempt cause chooses attempts free allowed fresh =>
      refine ⟨primary, choosing, attempt, _, _, rfl, chooses, attempts, .unable cause ?_ fresh⟩
      rw [if_pos free, allowed]
  | @second primary second choosing attempt later cause last chooses attempts free allowed fresh again =>
      refine ⟨primary, choosing, attempt, _, _, rfl, chooses, attempts, .second cause ?_ fresh again⟩
      rw [if_pos free, allowed]

end Course

theorem Run.Answers.unique {α : Type} {step : Run World α} {before after other : World}
    {answer another : α} (answers : step.Answers before answer after)
    (again : step.Answers before another other) : answer = another ∧ after = other :=
  ⟨answers.1.symm.trans again.1, answers.2.symm.trans again.2⟩

section Asked

variable {providers : Providers World P} {before after final : World}

theorem Conversation.asked_unique {kind : ProviderKind} {fresh twin : P} {answer another : Bool}
    {calls rest : List (ProviderCall P)}
    (conversation :
      Conversation providers before (.create kind fresh :: .probe fresh answer :: calls) after)
    (again : Conversation providers before (.create kind twin :: .probe twin another :: rest) final) :
    answer = another ∧
      ∃ between, Conversation providers between calls after ∧ Conversation providers between rest final := by
  obtain _ | ⟨created, _ | ⟨probed, conversation⟩⟩ := conversation
  obtain _ | ⟨recreated, _ | ⟨reprobed, again⟩⟩ := again
  obtain ⟨rfl, rfl⟩ := created.unique recreated
  obtain ⟨same, rfl⟩ := probed.unique reprobed
  exact ⟨same, _, conversation, again⟩

theorem Asks.unique {kinds able other : List ProviderKind} {calls others rest : List (ProviderCall P)}
    (asks : Asks kinds calls able) (conversation : Conversation providers before calls after)
    (again : Asks kinds others other) (longer : Conversation providers before (others ++ rest) final) :
    able = other := by
  induction asks generalizing before others other with
  | nil =>
      cases again
      rfl
  | able fresh asks ih =>
      cases again with
      | able twin again =>
          obtain ⟨-, between, first, second⟩ := conversation.asked_unique longer
          rw [ih first again second]
      | unable twin again => cases (conversation.asked_unique longer).1
  | unable fresh asks ih =>
      cases again with
      | able twin again => cases (conversation.asked_unique longer).1
      | unable twin again =>
          obtain ⟨-, between, first, second⟩ := conversation.asked_unique longer
          exact ih first again second

end Asked

namespace HotkeyManager

/-- Started in this world, the manager attempts a provider of the kind `selected` first, and goes on with
the kind `fallback`, if there is one, when that attempt fails. The calls are those on record. -/
def StartsWith (providers : Providers World P) (manager : HotkeyManager (Numbered P) κ) (world : World)
    (selected : ProviderKind) (fallback : Option ProviderKind) : Prop :=
  let after := start providers.watched manager { world }
  ∃ choosing attempt rest first last,
    Chooses manager.config manager.environment choosing selected ∧
    Attempts manager.config manager.actions.names selected attempt first ∧
    Proceeds manager.config manager.actions.names fallback first rest last ∧
    Conversation providers.watched { world } (choosing ++ (attempt ++ rest)) after.world ∧
    after.world.uses = (choosing ++ (attempt ++ rest)).map ProviderCall.use ∧
    after.value.1 = last.map fun _ => ()

theorem chooses_unique (providers : Providers World P) {config : HotkeyConfig} {environment : Environment}
    {world final : World} {choosing rest : List (ProviderCall P)} {primary : ProviderKind}
    (chooses : Chooses config environment choosing primary)
    (conversation : Conversation providers world (choosing ++ rest) final) {supported : Supported}
    (told : config.provider = .auto → (probe providers environment world).value = supported) :
    primary = selectProvider config.provider environment.runtime supported := by
  cases chooses with
  | fixed choice => exact (selectProvider_of_kind? _ _ choice).symm
  | @first calls able free asks =>
      obtain ⟨probes, probing, known, asked, selected⟩ := converses_probe providers environment world
      rw [free, ← told free, selected, asked.unique probing asks conversation]

end HotkeyManager

namespace Program

def detected (host : Host World P) (config : Config) (world : World) : Detection :=
  let vars := host.vars world
  let environment := Environment.detect vars.value
  .ofSupported config.hotkey.provider environment
    (HotkeyManager.probe host.providers environment vars.world).value

/-- A detection prints the kind that a start attempts first, and, where the choice is free, the kind that
it falls back to. A start under a fixed choice falls back to nothing, whatever is printed. -/
theorem detection_tells_start (host : Host World P) (config : Config) (format : String)
    (seen world : World) (manager : HotkeyManager (Numbered P) κ) (inactive : manager.active = none)
    (settings : manager.config = config.hotkey)
    (surroundings : manager.environment = (detected host config seen).environment)
    (same : config.hotkey.provider = .auto →
      (HotkeyManager.probe host.providers manager.environment world).value =
        (detected host config seen).supported) :
    let detection := detected host config seen
    let after := HotkeyManager.start host.providers.watched manager { world }
    (detect host config format seen).value =
      .ofLines (if format == "json" then detection.jsonLines else detection.lines host.inInputGroup) ∧
    HotkeyManager.start host.providers manager.unwatched world =
      { value := (after.value.1, after.value.2.unwatched)
        world := after.world.world
        log := after.log } ∧
    manager.StartsWith host.providers world detection.selected
      (if config.hotkey.provider = .auto then detection.fallback else none) := by
  intro detection after
  refine ⟨rfl, HotkeyManager.erases_start host.providers manager { world }, ?_⟩
  obtain ⟨calls, conducted, kinds, last, policy, answered, -⟩ :=
    HotkeyManager.converses_start host.providers.watched inactive { world }
  obtain ⟨primary, choosing, attempt, first, rest, rfl, chooses, attempts, proceeds⟩ := policy.proceeds
  have told : manager.config.provider = .auto →
      (HotkeyManager.probe host.providers.watched manager.environment { world }).value =
        detection.supported := by
    intro free
    have plain := HotkeyManager.erases_probe host.providers manager.environment { world }
    rw [← same (settings ▸ free), plain]
    rfl
  have selected : primary = detection.selected := by
    rw [HotkeyManager.chooses_unique _ chooses conducted told, settings, surroundings]
    rfl
  have fallback : fallbackFor primary manager.environment = detection.fallback := by
    rw [selected, surroundings]
    rfl
  rw [fallback] at proceeds
  rw [selected] at chooses attempts
  rw [← settings]
  exact ⟨choosing, attempt, rest, first, last, chooses, attempts, proceeds, conducted, conducted.uses,
    answered⟩

def refusingHost : Host Unit ProviderKind where
  providers := HotkeyManager.portalRefuses
  vars := pure fun name => if name = "XDG_CURRENT_DESKTOP" then some "sway" else none
  files := pure {}
  setFiles _ := pure ()
  processId := 1
  inInputGroup := false

/-- Where the choice is free, the fallback that is printed is the one that runs. -/
theorem free_choice_falls_back :
    let manager := HotkeyManager.underSway
    let detection := detected refusingHost {} ()
    manager.active = none ∧ manager.config = {} ∧ manager.environment = detection.environment ∧
    (HotkeyManager.probe refusingHost.providers manager.environment ()).value = detection.supported ∧
    manager.StartsWith refusingHost.providers () .portal (some .evdev) ∧
    ("Fallback:         evdev" ∈ detection.lines false) ∧
    (HotkeyManager.start refusingHost.providers.watched manager { world := () }).value.1 = .ok () := by
  intro manager detection
  have same : (HotkeyManager.probe refusingHost.providers manager.environment ()).value =
      detection.supported := by decide +kernel
  have surroundings : manager.environment = detection.environment := by decide +kernel
  obtain ⟨-, -, starts⟩ := detection_tells_start refusingHost {} "text" () () manager rfl rfl surroundings
    fun _ => same
  exact ⟨rfl, rfl, surroundings, same, starts, by decide +kernel, by decide +kernel⟩

/-- Where the choice is fixed, a fallback is printed that is not even asked. -/
theorem fixed_choice_prints_fallback :
    let config : Config := { hotkey := { provider := .dbus } }
    let manager := { HotkeyManager.underSway with config := config.hotkey }
    let detection := detected refusingHost config ()
    (detect refusingHost config "text" ()).value = .ofLines
      [ "Runtime:          system", "Desktop:          sway", "Provider setting: dbus",
        "Portal supported: yes", "Evdev supported:  yes", "Selected:         dbus",
        "Fallback:         evdev" ] ∧
    manager.environment = detection.environment ∧
    ¬ manager.StartsWith refusingHost.providers () detection.selected detection.fallback := by
  intro config manager detection
  refine ⟨by decide +kernel, by decide +kernel, ?_⟩
  rintro ⟨choosing, attempt, rest, first, last, -, -, proceeds, -, uses, answered⟩
  have failed : (HotkeyManager.start refusingHost.providers.watched manager { world := () }).value.1 =
      .error (.protocol "denied") := by decide +kernel
  have unasked : ∀ use ∈ (HotkeyManager.start refusingHost.providers.watched manager
      { world := () }).world.uses, use.2 ≠ .create .evdev := by decide +kernel
  cases first with
  | ok running =>
      cases proceeds
      rw [failed] at answered
      cases answered
  | error cause =>
      have printed : detection.fallback = some .evdev := by decide +kernel
      have asked : .evdev ∈ created rest := (proceeds.fallback_iff .evdev).mp printed
      obtain ⟨number, recorded⟩ := HotkeyManager.mem_created_iff.mp asked
      have used : (number, .create .evdev) ∈ (choosing ++ (attempt ++ rest)).map ProviderCall.use := by
        simp only [List.map_append, List.mem_append]
        exact .inr (.inr recorded)
      rw [← uses] at used
      exact unasked _ used rfl

end Program

end GlobalHotkeys
