import GlobalHotkeys.Proofs.Manager.Operations

namespace GlobalHotkeys

variable {World P κ : Type}

def ProviderCall.created? : ProviderCall P → Option ProviderKind
  | create kind _ => some kind
  | _ => none

def created (calls : List (ProviderCall P)) : List ProviderKind :=
  calls.flatMap fun call => call.created?.toList

@[simp] theorem created_nil : created ([] : List (ProviderCall P)) = [] := rfl

@[simp] theorem created_cons (call : ProviderCall P) (rest : List (ProviderCall P)) :
    created (call :: rest) = call.created?.toList ++ created rest := rfl

@[simp] theorem created_append (first second : List (ProviderCall P)) :
    created (first ++ second) = created first ++ created second :=
  List.flatMap_append

section Creating

variable {config : HotkeyConfig} {environment : Environment} {kind : ProviderKind}
  {calls : List (ProviderCall P)}

theorem Asks.created_eq {kinds able : List ProviderKind} (asks : Asks kinds calls able) :
    created calls = kinds := by
  induction asks with
  | nil => rfl
  | able fresh others ih =>
      simpa [ProviderCall.created?] using ih
  | unable fresh others ih =>
      simpa [ProviderCall.created?] using ih

theorem Offers.created_eq {names : List String} {provider last : P}
    (offers : Offers config names provider calls last) : created calls = [] := by
  induction offers with
  | nil provider => rfl
  | unset unset others ih => exact ih
  | taken bound others ih =>
      simpa [ProviderCall.created?] using ih
  | refused bound cause others ih =>
      simpa [ProviderCall.created?] using ih

theorem Attempts.created_eq {names : List String} {answer : Except HotkeyError P}
    (attempts : Attempts config names kind calls answer) : created calls = [kind] := by
  cases attempts with
  | refused fresh cause => rfl
  | started fresh offers answer => simp [ProviderCall.created?, offers.created_eq]

/-- The kinds that a start may come to: the one that is chosen, the candidates, the null provider, and
what may follow when another one did not start. -/
def Eligible (config : HotkeyConfig) (environment : Environment) (kind : ProviderKind) : Prop :=
  config.provider.kind? = some kind ∨ kind ∈ candidateOrder environment.runtime ∨ kind = .null ∨
    ∃ primary, fallbackFor primary environment = some kind

theorem Chooses.eligible (chooses : Chooses config environment calls kind) :
    Eligible config environment kind ∧
      ∀ other ∈ created calls, Eligible config environment other := by
  cases chooses with
  | fixed choice => exact ⟨.inl choice, by simp⟩
  | @first calls able free asks =>
      refine ⟨?_, fun other member => ?_⟩
      · cases found : able with
        | nil => exact .inr (.inr (.inl rfl))
        | cons first rest =>
            have candidate : first ∈ candidateOrder environment.runtime :=
              asks.subset (by simp [found])
            exact .inr (.inl candidate)
      · rw [asks.created_eq] at member
        exact .inr (.inl member)

theorem Policy.created_among {names : List String} {kinds : List ProviderKind}
    {answer : Except HotkeyError P} (policy : Policy config environment names kinds calls answer) :
    ∃ choosing primary, Chooses (P := P) config environment choosing primary ∧
      ∀ other ∈ created calls,
        other ∈ created choosing ∨ other = primary ∨ fallbackFor primary environment = some other := by
  cases policy with
  | success chooses attempts =>
      refine ⟨_, _, chooses, fun other member => ?_⟩
      rw [← or_assoc]
      exact .inl (by simpa [attempts.created_eq] using member)
  | alone chooses attempts alone =>
      refine ⟨_, _, chooses, fun other member => ?_⟩
      rw [← or_assoc]
      exact .inl (by simpa [attempts.created_eq] using member)
  | unable chooses attempts free allowed fresh =>
      refine ⟨_, _, chooses, fun other member => ?_⟩
      simpa [ProviderCall.created?, attempts.created_eq, allowed, eq_comm] using member
  | second chooses attempts free allowed fresh again =>
      refine ⟨_, _, chooses, fun other member => ?_⟩
      simpa [ProviderCall.created?, attempts.created_eq, again.created_eq, allowed, eq_comm] using member

theorem Policy.eligible {names : List String} {kinds : List ProviderKind}
    {answer : Except HotkeyError P} (policy : Policy config environment names kinds calls answer) :
    ∀ other ∈ created calls, Eligible config environment other := by
  obtain ⟨choosing, primary, chooses, among⟩ := policy.created_among
  intro other member
  rcases among other member with asked | rfl | allowed
  · exact chooses.eligible.2 other asked
  · exact chooses.eligible.1
  · exact .inr (.inr (.inr ⟨primary, allowed⟩))

theorem not_eligible_evdev (sandboxed : environment.runtime = .flatpak)
    (spared : config.provider ≠ .evdev) : ¬ Eligible config environment .evdev := by
  rintro (chosen | candidate | null | ⟨primary, allowed⟩)
  · cases choice : config.provider with
    | auto => simp [choice, ProviderChoice.kind?] at chosen
    | dbus => simp [choice, ProviderChoice.kind?] at chosen
    | evdev => exact spared choice
  · simp [sandboxed, candidateOrder] at candidate
  · cases null
  · cases primary <;> simp [fallbackFor, otherProvider?, sandboxed] at allowed

end Creating

namespace HotkeyManager

section Sandboxed

variable {manager after : HotkeyManager P κ} {calls : List (ProviderCall P)}

theorem Starts.spares {answer : Except HotkeyError Unit} (starts : Starts manager answer after calls)
    (sandboxed : manager.environment.runtime = .flatpak) (spared : manager.config.provider ≠ .evdev) :
    .evdev ∉ created calls := by
  cases starts with
  | rejected active => simp
  | policy inactive policy =>
      intro asked
      exact not_eligible_evdev sandboxed spared (policy.eligible _ asked)

theorem Stops.created_eq (stops : Stops manager after calls) : created calls = [] := by
  cases stops <;> rfl

theorem Adds.created_eq {name : String} {callback : κ} {answer : Except HotkeyError Unit}
    (adds : Adds manager name callback answer after calls) : created calls = [] := by
  cases adds <;> rfl

variable (providers : Providers World P)

theorem converses_probe_sandboxed (environment : Environment)
    (sandboxed : environment.runtime = .flatpak) :
    Converses providers (probe providers environment) fun _ calls => .evdev ∉ created calls := by
  refine (converses_probe providers environment).mono ?_
  rintro supported calls ⟨able, asks, -⟩
  rw [asks.created_eq, sandboxed]
  decide

theorem converses_capture_sandboxed (sandboxed : manager.environment.runtime = .flatpak)
    (limit : Duration) :
    Converses providers (capture providers manager limit) fun _ calls => created calls = [] := by
  unfold capture
  have native : Converses providers (capturingProvider? providers manager) fun _ calls =>
      created calls = [] := by
    unfold capturingProvider?
    cases manager.active with
    | none => exact .pure rfl
    | some provider =>
        refine .bind (.capturesKeys providers provider) fun able calls asked => ?_
        subst asked
        split_ifs
        · exact .pure rfl
        · exact .pure rfl
  refine .bind native fun found calls silent => ?_
  cases found with
  | some provider =>
      refine (Converses.capture providers provider limit).mono ?_
      rintro answer _ rfl
      simp [silent, ProviderCall.created?]
  | none =>
      rw [if_pos sandboxed]
      exact .pure (by rw [List.append_nil, silent])

theorem converses_perform_sandboxed (sandboxed : manager.environment.runtime = .flatpak)
    (spared : manager.config.provider ≠ .evdev) {operation : ManagerOperation κ}
    (sparing : ∀ config, operation.config? = some config → config.provider ≠ .evdev) :
    ConversesManaged providers (operation.perform providers) manager fun answer after calls =>
      Performs manager operation answer after calls ∧ .evdev ∉ created calls := by
  -- What an operation does is known but for the calls of a capture and of a probe.
  have known (creates : ∀ answer after calls, Performs manager operation answer after calls →
      .evdev ∉ created calls) :
      ConversesManaged providers (operation.perform providers) manager fun answer after calls =>
        Performs manager operation answer after calls ∧ .evdev ∉ created calls :=
    (converses_perform providers manager operation).mono fun answer after calls performs =>
      ⟨performs, creates answer after calls performs⟩
  cases operation with
  | start =>
      apply known
      intro answer after calls performs
      cases performs with
      | start starts => exact starts.spares sandboxed spared
  | stop =>
      apply known
      intro answer after calls performs
      cases performs with
      | stop stops => simp [stops.created_eq]
  | reload config =>
      apply known
      intro answer after calls performs
      cases performs with
      | @reload _ between _ answer stopping calls stops starts =>
          obtain ⟨state, rfl⟩ := stops.eq_with
          rw [created_append, stops.created_eq, List.nil_append]
          exact starts.spares sandboxed (sparing config rfl)
  | setCallbacks callbacks =>
      apply known
      intro answer after calls performs
      cases performs with
      | setCallbacks callbacks => simp
  | addAction name callback =>
      apply known
      intro answer after calls performs
      cases performs with
      | addAction adds => simp [adds.created_eq]
  | capture limit =>
      refine .get (.lift (converses_capture_sandboxed providers sandboxed limit) ?_)
      intro answer calls silent
      refine .pure ⟨.capture limit answer _, ?_⟩
      rw [List.append_nil, silent]
      exact List.not_mem_nil
  | probe =>
      refine .get (.lift (converses_probe_sandboxed providers _ sandboxed) ?_)
      intro supported calls spares
      refine .pure ⟨.probe supported _, ?_⟩
      rwa [List.append_nil]

end Sandboxed

theorem mem_created_iff {calls : List (ProviderCall (Numbered P))} {kind : ProviderKind} :
    kind ∈ created calls ↔ ∃ number, (number, .create kind) ∈ calls.map ProviderCall.use := by
  constructor
  · intro member
    obtain ⟨call, called, creates⟩ := List.mem_flatMap.mp member
    cases call with
    | create other fresh =>
        obtain rfl : kind = other := by simpa [ProviderCall.created?] using creates
        exact ⟨fresh.number, List.mem_map_of_mem called⟩
    | _ => cases creates
  · rintro ⟨number, recorded⟩
    obtain ⟨call, called, use⟩ := List.mem_map.mp recorded
    refine List.mem_flatMap.mpr ⟨call, called, ?_⟩
    cases call <;> simp_all [ProviderCall.use, ProviderCall.created?]

structure Course.Confined (course : Course (Watched World) (Numbered P) κ) : Prop where
  sandboxed : course.manager.environment.runtime = .flatpak
  spared : course.manager.config.provider ≠ .evdev
  uncreated : ∀ number, (number, .create .evdev) ∉ course.world.uses

theorem Course.Confined.step {course : Course (Watched World) (Numbered P) κ}
    (confined : course.Confined) (providers : Providers World P) {operation : ManagerOperation κ}
    (sparing : ∀ config, operation.config? = some config → config.provider ≠ .evdev) :
    (course.step providers.watched operation).Confined := by
  obtain ⟨calls, conducted, performs, spares⟩ := converses_perform_sandboxed providers.watched
    confined.sandboxed confined.spared sparing course.world
  obtain ⟨active, state, actions, left, -⟩ := performs.eq_with
  refine ⟨?_, ?_, fun number recorded => ?_⟩
  · simpa only [Course.step, left] using confined.sandboxed
  · show (operation.perform providers.watched course.manager course.world).value.2.config.provider ≠ _
    rw [performs.config]
    cases brought : operation.config? with
    | none => exact confined.spared
    | some config => exact sparing config brought
  · have uses : (number, .create .evdev) ∈ course.world.uses ++ calls.map ProviderCall.use := by
      rw [← conducted.uses]
      exact recorded
    rcases List.mem_append.mp uses with earlier | new
    · exact confined.uncreated number earlier
    · exact spares (mem_created_iff.mpr ⟨number, new⟩)

/-- In a Flatpak sandbox, with no settings that ask for the keyboards, a manager never creates a provider
of the keyboards, whatever its providers answer and whatever desktop it runs on. Every provider that it
probes, gives hotkeys, starts, stops or captures with was created as one of another kind. -/
theorem flatpak_spares_keyboards (providers : Providers World P) (config : HotkeyConfig)
    (environment : Environment) (world : World) (operations : List (ManagerOperation κ))
    (sandboxed : environment.runtime = .flatpak) (spared : config.provider ≠ .evdev)
    (sparing : ∀ operation ∈ operations, ∀ config, operation.config? = some config →
      config.provider ≠ .evdev) :
    let course := Course.after providers.watched config environment { world } operations
    course.unwatched = Course.after providers config environment world operations ∧
    (∀ number, (number, .create .evdev) ∉ course.world.uses) ∧
    ∀ use ∈ course.world.uses, ∃ kind, (use.1, .create kind) ∈ course.world.uses ∧ kind ≠ .evdev := by
  intro course
  have confined : course.Confined := by
    induction operations using List.reverseRecOn with
    | nil => exact ⟨sandboxed, spared, by simp [course, Course.after]⟩
    | append_singleton operations operation ih =>
        obtain ⟨earlier, last⟩ := List.forall_mem_append.mp sparing
        have step := (ih earlier).step providers (List.forall_mem_singleton.mp last)
        rwa [← Course.after_concat] at step
  have orderly : Orderly course.world.uses :=
    (tended_after providers config environment world operations).orderly
  refine ⟨Course.after_unwatched providers config environment world operations,
    confined.uncreated, fun use member => ?_⟩
  obtain ⟨kind, created⟩ := orderly.exists_create member
  refine ⟨kind, created, ?_⟩
  rintro rfl
  exact confined.uncreated use.1 created

/-- A portal that does not start, with every operation tried; the null provider is never needed. -/
theorem refused_portal_spares_keyboards :
    let environment : Environment := { runtime := .flatpak, desktop := "sway" }
    let operations : List (ManagerOperation Unit) :=
      [.probe, .start, .capture (.ofSeconds 10), .addAction "cancel" (), .reload { provider := .dbus },
        .setCallbacks ⟨(), ()⟩, .stop]
    let course := Course.after portalRefuses.watched {} environment { world := () } operations
    environment.runtime = .flatpak ∧
    (∀ operation ∈ operations, ∀ config, operation.config? = some config →
      config.provider ≠ .evdev) ∧
    (∀ number, (number, .create .evdev) ∉ course.world.uses) ∧
    (2, .start (some (.protocol "denied"))) ∈ course.world.uses := by
  intro environment operations course
  have sparing : ∀ operation ∈ operations, ∀ config, operation.config? = some config →
      config.provider ≠ .evdev := by
    simp [operations, ManagerOperation.config?]
  obtain ⟨-, uncreated, -⟩ := flatpak_spares_keyboards portalRefuses {} environment () operations
    rfl (by decide) sparing
  exact ⟨rfl, sparing, uncreated, by decide +kernel⟩

end HotkeyManager

end GlobalHotkeys
