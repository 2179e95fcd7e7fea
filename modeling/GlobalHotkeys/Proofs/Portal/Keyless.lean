import GlobalHotkeys.Proofs.Portal.Start
import GlobalHotkeys.Proofs.Portal.Trigger

namespace GlobalHotkeys

open Combination

theorem normalizeHotkey_eq_empty_iff {hotkey : String} :
    normalizeHotkey hotkey = "" ↔ (parse hotkey).key = "" ∧ (parse hotkey).modifiers = [] := by
  have nothing : parse "" = {} := by decide +kernel
  have fields : (parse hotkey).key = "" ∧ (parse hotkey).modifiers = [] ↔ parse hotkey = {} := by
    rw [Combination.mk.injEq, and_comm]
  rw [fields]
  constructor
  · intro empty
    rw [← parse_normalizeHotkey, empty, nothing]
  · intro empty
    rw [normalizeHotkey, empty]
    rfl

theorem TriggerKey.key_eq_empty {key written : String} (triggered : TriggerKey key written)
    (empty : written = "") : key = "" := by
  cases triggered with
  | named row =>
      subst empty
      simp [triggerNames] at row
  | function zeros number => exact absurd (congrArg String.toList empty) (by simp [functionKeyName])
  | other => exact empty

theorem acceleratorKey_eq_empty_iff {key : String} : acceleratorKey key = "" ↔ key = "" := by
  refine ⟨(triggerKey_iff.mpr rfl).key_eq_empty, ?_⟩
  rintro rfl
  rfl

def Combination.modifierWords (combination : Combination) : String :=
  String.join (combination.modifiers.map fun modifier => "<" ++ acceleratorModifier modifier ++ ">")

theorem accelerator_eq_modifierWords_iff {hotkey : String} :
    accelerator hotkey = (parse hotkey).modifierWords ↔ (parse hotkey).key = "" := by
  rw [← acceleratorKey_eq_empty_iff, accelerator, modifierWords]
  exact String.append_eq_left_iff

namespace Portal

variable {World α β : Type}

def Asks (allowed : BusCall → Prop) : Except HotkeyError α → List BusAct → Prop :=
  fun _ acts => ∀ call ∈ acts.filterMap BusAct.call?, allowed call

section Asks

variable {allowed : BusCall → Prop}

theorem TapesAttempt.asks_bind {taped : Attempt (Taped World) α} {plain : Attempt World α}
    {tapedNext : α → Attempt (Taped World) β} {plainNext : α → Attempt World β}
    (first : TapesAttempt taped plain (Asks allowed))
    (second : ∀ value, TapesAttempt (tapedNext value) (plainNext value) (Asks allowed)) :
    TapesAttempt (taped >>= tapedNext) (plain >>= plainNext) (Asks allowed) := by
  refine first.bind (fun cause acts asked => asked) fun value acts asked now => ?_
  obtain ⟨later, same, askedLater⟩ := second value now
  refine ⟨later, same, fun call member => ?_⟩
  rw [List.filterMap_append, List.mem_append] at member
  exact member.elim (asked call) (askedLater call)

theorem TapesAttempt.asks {taped : Attempt (Taped World) α} {plain : Attempt World α}
    {ends : Except HotkeyError α → List BusAct → Prop} (tapes : TapesAttempt taped plain ends)
    (asks : ∀ answer acts, ends answer acts → Asks allowed answer acts) :
    TapesAttempt taped plain (Asks allowed) :=
  fun now => (tapes now).imp fun _ => And.imp_right (asks _ _)

theorem Subscribed.asks {rule : SignalRule} {answer : Except HotkeyError Unit} {acts : List BusAct}
    (subscribed : Subscribed rule answer acts) : Asks allowed answer acts := by
  cases subscribed <;> exact nofun

theorem Requested.asks {unique owner token method : String} {call : BusCall}
    {answer : Except HotkeyError Results} {acts : List BusAct}
    (requested : Requested unique owner token method call answer acts) (may : allowed call) :
    Asks allowed answer acts := by
  have one {exchange : Exchange} {rule : SignalRule} {later : List BusAct}
      (silent : Asks allowed answer later) :
      Asks allowed answer (.subscribed rule (.ok ()) :: .called call exchange :: later) :=
    List.forall_mem_cons.mpr ⟨may, silent⟩
  cases requested with
  | unnamed => exact nofun
  | unheard _ failed => exact failed.asks
  | refused => exact one nofun
  | awaited => exact one nofun
  | unheardThere _ _ _ failed => exact one failed.asks
  | awaitedThere => exact one nofun

end Asks

def BindsFor (ids : List String) : BusCall → Prop
  | .bindShortcuts _ shortcuts _ _ => shortcuts.Perm (ids.map shortcut)
  | _ => True

theorem createSession_asks (bus : Bus World) (unique owner : String) (ids : List String) :
    TapesAttempt (createSession bus.taped unique owner) (createSession bus unique owner)
      (Asks (BindsFor ids)) := by
  unfold createSession
  refine .lift_bind (tapes_freshToken bus "req") ?_
  rintro requestToken _ rfl
  refine .lift_bind (tapes_freshToken bus "session") ?_
  rintro sessionToken _ rfl
  refine .asks_bind ((tapes_request bus _ _ _ _ _).asks fun _ _ requested => requested.asks trivial) ?_
  intro results
  exact .asks_bind (.ofExcept nofun) fun handle => .note_bind (.pure nofun)

theorem bindShortcuts_asks (bus : Bus World) (unique owner handle : String) (ids : List String) :
    TapesAttempt (bindShortcuts bus.taped unique owner handle ids)
      (bindShortcuts bus unique owner handle ids) (Asks (BindsFor ids)) := by
  have listed : BindsFor ids (.bindShortcuts handle
      ((ids.mergeSort fun first second => first ≤ second).map shortcut) "" "") :=
    (List.mergeSort_perm _ _).map shortcut
  unfold bindShortcuts
  refine .lift_bind (tapes_freshToken bus "bind") ?_
  rintro token _ rfl
  refine .asks_bind ((tapes_request bus _ _ _ _ _).asks fun _ _ requested => requested.asks listed) ?_
  exact fun _ => .note nofun

theorem openSession_asks (bus : Bus World) (ids : List String) :
    TapesAttempt (openSession bus.taped ids) (openSession bus ids) (Asks (BindsFor ids)) := by
  have asksOwner : TapesAttempt (findOwner bus.taped) (findOwner bus) (Asks (BindsFor ids)) :=
    .act_bind fun exchange => .reached (List.forall_mem_cons.mpr ⟨trivial, nofun⟩)
  unfold openSession
  refine .act_bind fun given => .asks_bind (.reached nofun) fun unique => .asks_bind asksOwner fun owner =>
    .asks_bind (createSession_asks bus unique owner ids) fun handle =>
      .asks_bind (bindShortcuts_asks bus unique owner handle ids) fun _ => ?_
  refine .asks_bind ((tapes_subscribe bus _).asks fun _ _ subscribed => subscribed.asks) fun _ => ?_
  refine .lift_bind (Tapes.log _ _) ?_
  rintro _ _ rfl
  exact .pure nofun

end Portal

namespace PortalProvider

open Portal

variable {World β : Type}

theorem start_asks (bus : Bus World) (provider : PortalProvider β) :
    TapesAttempt (provider.start bus.taped) (provider.start bus) (Asks (BindsFor provider.ids)) := by
  unfold start
  cases provider.isListening with
  | true => exact .fail nofun
  | false => exact .asks_bind (openSession_asks bus provider.ids) fun session => .pure nofun

section Registration

variable (provider : PortalProvider β) (hotkey : String) (binding : β)

theorem register_cases :
    normalizeHotkey hotkey = "" ∧ provider.register hotkey binding = .error (.unknownKey hotkey) ∨
      normalizeHotkey hotkey ≠ "" ∧ normalizeHotkey hotkey ∈ provider.ids ∧
        provider.register hotkey binding = .error (.alreadyRegistered (normalizeHotkey hotkey)) ∨
      normalizeHotkey hotkey ≠ "" ∧ normalizeHotkey hotkey ∉ provider.ids ∧
        provider.register hotkey binding =
          .ok { provider with table := provider.table ++ [(normalizeHotkey hotkey, binding)] } := by
  by_cases empty : normalizeHotkey hotkey = ""
  · exact .inl ⟨empty, by simp [register, empty]⟩
  · by_cases taken : normalizeHotkey hotkey ∈ provider.ids
    · exact .inr (.inl ⟨empty, taken, register_taken binding empty taken⟩)
    · exact .inr (.inr ⟨empty, taken, register_eq_ok_iff.mpr ⟨empty, taken, rfl⟩⟩)

theorem register_eq_unknownKey_iff :
    provider.register hotkey binding = .error (.unknownKey hotkey) ↔
      (parse hotkey).key = "" ∧ (parse hotkey).modifiers = [] := by
  rw [← normalizeHotkey_eq_empty_iff]
  obtain ⟨empty, answer⟩ | ⟨nonempty, -, answer⟩ | ⟨nonempty, -, answer⟩ :=
    register_cases provider hotkey binding <;> simp [*]

theorem step_of_rejected {cause : HotkeyError}
    (rejected : provider.register hotkey binding = .error cause) :
    provider.step (.register hotkey binding : Step World β) = provider := by
  rw [step, rejected]
  rfl

theorem mem_ids_register {id : String} :
    id ∈ (provider.step (.register hotkey binding : Step World β)).ids ↔
      id ∈ provider.ids ∨ id ≠ "" ∧ normalizeHotkey hotkey = id := by
  obtain ⟨empty, answer⟩ | ⟨nonempty, taken, answer⟩ | ⟨nonempty, fresh, answer⟩ :=
    register_cases provider hotkey binding
  · rw [step_of_rejected provider hotkey binding answer, empty]
    exact ⟨.inl, fun member => member.resolve_right fun named => named.1 named.2.symm⟩
  · rw [step_of_rejected provider hotkey binding answer]
    refine ⟨.inl, fun member => member.elim (fun kept => kept) ?_⟩
    rintro ⟨-, rfl⟩
    exact taken
  · rw [step, answer, afterAnswer, ids, List.map_append, List.mem_append, List.map_singleton,
      List.mem_singleton]
    dsimp only
    generalize normalizeHotkey hotkey = written at nonempty ⊢
    refine or_congr_right ⟨?_, fun same => same.2.symm⟩
    rintro rfl
    exact ⟨nonempty, rfl⟩

end Registration

theorem mem_ids_step {provider : PortalProvider β} {next : Step World β} {id : String} :
    id ∈ (provider.step next).ids ↔
      id ∈ provider.ids ∨
        id ≠ "" ∧ ∃ hotkey binding, next = .register hotkey binding ∧ normalizeHotkey hotkey = id := by
  cases next with
  | register hotkey binding =>
      rw [mem_ids_register]
      simp only [Step.register.injEq, and_assoc, exists_and_left, exists_eq_left']
  | start bus world =>
      rw [step]
      cases answer : ((provider.start bus).run world).value with
      | error cause => simp [afterAnswer]
      | ok started => simp [afterAnswer, ids, table_of_start answer]
  | stop => simp [step, stop, ids]
  | hear delivery => simp [step, ids, table_of_hear]

theorem mem_ids_after {steps : List (Step World β)} {id : String} :
    id ∈ (after steps).ids ↔
      id ≠ "" ∧ ∃ hotkey binding, .register hotkey binding ∈ steps ∧ normalizeHotkey hotkey = id := by
  have grown (provider : PortalProvider β) : id ∈ (steps.foldl step provider).ids ↔
      id ∈ provider.ids ∨
        id ≠ "" ∧ ∃ hotkey binding, .register hotkey binding ∈ steps ∧ normalizeHotkey hotkey = id := by
    induction steps generalizing provider with
    | nil => simp
    | cons next rest ih =>
        rw [List.foldl_cons, ih, mem_ids_step, or_assoc, ← and_or_left]
        simp only [List.mem_cons, or_and_right, exists_or, eq_comm]
  exact (grown {}).trans (or_iff_right List.not_mem_nil)

theorem keyless_mem_ids_iff {steps : List (Step World β)} :
    (∃ id ∈ (after steps).ids, (parse id).key = "") ↔
      ∃ hotkey binding, .register hotkey binding ∈ steps ∧
        (parse hotkey).key = "" ∧ (parse hotkey).modifiers ≠ [] := by
  constructor
  · rintro ⟨id, member, keyless⟩
    obtain ⟨nonempty, hotkey, binding, registered, rfl⟩ := mem_ids_after.mp member
    rw [parse_normalizeHotkey] at keyless
    rw [Ne, normalizeHotkey_eq_empty_iff] at nonempty
    exact ⟨hotkey, binding, registered, keyless, fun none => nonempty ⟨keyless, none⟩⟩
  · rintro ⟨hotkey, binding, registered, keyless, some⟩
    refine ⟨normalizeHotkey hotkey, mem_ids_after.mpr ⟨?_, hotkey, binding, registered, rfl⟩, ?_⟩
    · exact fun empty => some (normalizeHotkey_eq_empty_iff.mp empty).2
    · rwa [parse_normalizeHotkey]

/-- A hotkey is rejected as unknown exactly if it names neither a key nor a modifier; any other is accepted
unless its normal form is taken, and a rejected one changes nothing. So the ids that any steps lead to are
normal forms that name something. One without a key is among them exactly if a hotkey of modifiers only
was registered, and whatever a start asks to be bound is these ids, with a trigger of modifiers only for
the ones without a key. -/
theorem modifiers_suffice_for_registration :
    (∀ (provider : PortalProvider β) (hotkey : String) (binding : β),
      (provider.register hotkey binding = .error (.unknownKey hotkey) ↔
        (parse hotkey).key = "" ∧ (parse hotkey).modifiers = []) ∧
      ((parse hotkey).key ≠ "" ∨ (parse hotkey).modifiers ≠ [] →
        provider.register hotkey binding =
          if normalizeHotkey hotkey ∈ provider.ids then
            .error (.alreadyRegistered (normalizeHotkey hotkey))
          else .ok { provider with table := provider.table ++ [(normalizeHotkey hotkey, binding)] }) ∧
      ∀ cause, provider.register hotkey binding = .error cause →
        provider.step (.register hotkey binding : Step World β) = provider) ∧
    ∀ steps : List (Step World β),
      (∀ id ∈ (after steps).ids,
        normalizeHotkey id = id ∧ ((parse id).key ≠ "" ∨ (parse id).modifiers ≠ [])) ∧
      ((∃ id ∈ (after steps).ids, (parse id).key = "") ↔
        ∃ hotkey binding, .register hotkey binding ∈ steps ∧
          (parse hotkey).key = "" ∧ (parse hotkey).modifiers ≠ []) ∧
      ∀ (bus : Bus World) (world : World) session shortcuts parent token,
        .bindShortcuts session shortcuts parent token ∈
          (((after steps).start bus.taped).run { world }).world.tape.filterMap BusAct.call? →
        (shortcuts.map Shortcut.id).Perm (after steps).ids ∧
        ∀ listed ∈ shortcuts, listed.trigger = accelerator listed.id ∧
          (listed.trigger = (parse listed.id).modifierWords ↔ (parse listed.id).key = "") := by
  refine ⟨fun provider hotkey binding => ⟨?_, fun named => ?_, ?_⟩, fun steps => ⟨?_, ?_, ?_⟩⟩
  · exact register_eq_unknownKey_iff provider hotkey binding
  · rw [← not_and_or, ← normalizeHotkey_eq_empty_iff] at named
    obtain ⟨empty, -⟩ | ⟨-, taken, answer⟩ | ⟨-, fresh, answer⟩ := register_cases provider hotkey binding
    · exact absurd empty named
    · rw [answer, if_pos taken]
    · rw [answer, if_neg fresh]
  · exact fun cause => step_of_rejected provider hotkey binding
  · intro id member
    obtain ⟨nonempty, hotkey, -, -, rfl⟩ := mem_ids_after.mp member
    refine ⟨normalizeHotkey_normalizeHotkey hotkey, ?_⟩
    rwa [parse_normalizeHotkey, ← not_and_or, ← normalizeHotkey_eq_empty_iff]
  · exact keyless_mem_ids_iff
  · intro bus world session shortcuts parent token asked
    have listed : shortcuts.Perm ((after steps).ids.map shortcut) :=
      ((start_asks bus (after steps)).run world).2 _ asked
    refine ⟨?_, fun one member => ?_⟩
    · have ids_shortcut : Shortcut.id ∘ shortcut = id := rfl
      simpa [List.map_map, ids_shortcut] using listed.map Shortcut.id
    · obtain ⟨id, -, rfl⟩ := List.mem_map.mp (listed.mem_iff.mp member)
      exact ⟨rfl, accelerator_eq_modifierWords_iff⟩

/-- A hotkey of one modifier and no key is accepted, and a session is asked to bind it. -/
theorem modifier_without_key_bound :
    let provider : PortalProvider String := { table := [("ctrl+", "record")] }
    (parse "ctrl+").key = "" ∧
    ({} : PortalProvider String).register "ctrl+" "record" = .ok provider ∧
    .bindShortcuts "/session" [{ id := "ctrl+", description := "dictkey: ctrl+", trigger := "<Ctrl>" }]
        "" "dictkey_bind_0_0" ∈
      ((provider.start granting.taped).run { world := () }).world.tape.filterMap BusAct.call? := by
  decide +kernel

end PortalProvider

end GlobalHotkeys
