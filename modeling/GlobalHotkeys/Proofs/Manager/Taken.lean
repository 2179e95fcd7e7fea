import GlobalHotkeys.Proofs.Manager.Bindings

namespace GlobalHotkeys

variable {World P κ : Type} {idOf : String → String} {tableOf? : P → Option (List (String × Binding))}

/-- The tables that these providers keep, where they keep one: a fresh provider has bound nothing, a
hotkey that is taken is bound after the others to its id, which was free, and a start binds nothing. -/
structure Providers.Tables (providers : Providers World P) (idOf : String → String)
    (tableOf? : P → Option (List (String × Binding))) : Prop where
  create : ∀ kind now, ∀ table ∈ tableOf? (providers.create kind now).value, table = []
  appends : ∀ {provider hotkey binding now after},
    (providers.register provider hotkey binding now).value = .ok after →
      tableOf? after = (tableOf? provider).map (· ++ [(idOf hotkey, binding)])
  free : ∀ {provider hotkey binding now after},
    (providers.register provider hotkey binding now).value = .ok after →
      ∀ table ∈ tableOf? provider, idOf hotkey ∉ table.map Prod.fst
  start : ∀ {provider now after}, (providers.start provider now).value = .ok after →
    tableOf? after = tableOf? provider

theorem ProviderKind.idOf?_eq_some {kind : ProviderKind} {hotkey id : String}
    (named : kind.idOf? hotkey = some id) : id = normalizeHotkey hotkey := by
  cases kind with
  | null => cases named
  | portal =>
      rw [ProviderKind.idOf?] at named
      split_ifs at named
      exact (Option.some.inj named).symm
  | evdev =>
      rw [ProviderKind.idOf?] at named
      split_ifs at named
      exact (Option.some.inj named).symm

namespace HotkeyProvider

def table? (provider : HotkeyProvider) : Option (List (String × Binding)) :=
  if provider.kind = .null then none else some provider.bindings

variable {provider after : HotkeyProvider} {hotkey : String} {binding : Binding} {now : World}

theorem table?_of_register (registered : (provider.register hotkey binding now).value = .ok after) :
    after.table? = provider.table?.map (· ++ [(normalizeHotkey hotkey, binding)]) ∧
      ∀ table ∈ provider.table?, normalizeHotkey hotkey ∉ table.map Prod.fst := by
  unfold table?
  by_cases real : provider.kind = .null
  · obtain ⟨kind, -⟩ := bindings_of_register_null real registered
    simp [kind, real]
  · obtain ⟨id, named, free, kind, bindings⟩ := register_eq_ok real registered
    obtain rfl := ProviderKind.idOf?_eq_some named
    rw [kind, if_neg real, if_neg real, bindings]
    refine ⟨rfl, ?_⟩
    rintro _ ⟨⟩
    exact free

end HotkeyProvider

theorem Machine.tables (machine : Machine World) :
    machine.providers.Tables normalizeHotkey HotkeyProvider.table? where
  create kind now table known := by
    cases kind with
    | null => cases known
    | _ => exact (Option.some.inj known).symm
  appends registered := by
    rw [show machine.providers.register = HotkeyProvider.register from rfl] at registered
    exact (HotkeyProvider.table?_of_register registered).1
  free registered := by
    rw [show machine.providers.register = HotkeyProvider.register from rfl] at registered
    exact (HotkeyProvider.table?_of_register registered).2
  start started := by
    obtain ⟨kind, bindings⟩ := HotkeyProvider.bindings_of_start started
    unfold HotkeyProvider.table?
    rw [kind, bindings]

theorem Providers.Tables.watched {providers : Providers World P} (tables : providers.Tables idOf tableOf?) :
    providers.watched.Tables idOf fun numbered => tableOf? numbered.provider where
  create kind now := tables.create kind now.world
  appends registered := by
    obtain ⟨ready, taken, rfl⟩ := HotkeyProvider.exists_of_map_eq_ok registered
    exact tables.appends taken
  free registered := by
    obtain ⟨ready, taken, rfl⟩ := HotkeyProvider.exists_of_map_eq_ok registered
    exact tables.free taken
  start started := by
    obtain ⟨running, begun, rfl⟩ := HotkeyProvider.exists_of_map_eq_ok started
    exact tables.start begun

structure Grows (tableOf? : P → Option (List (String × Binding))) (provider : P)
    (added : List (String × Binding)) (after : P) : Prop where
  table : tableOf? after = (tableOf? provider).map (· ++ added)
  distinct : ∀ table ∈ tableOf? provider, (table.map Prod.fst).Nodup →
    ((table ++ added).map Prod.fst).Nodup

namespace Grows

variable {provider between after : P} {added later : List (String × Binding)}

theorem refl (same : tableOf? after = tableOf? provider) : Grows tableOf? provider [] after where
  table := by simp [same]
  distinct table _ distinct := by rwa [List.append_nil]

theorem trans (first : Grows tableOf? provider added between) (second : Grows tableOf? between later after) :
    Grows tableOf? provider (added ++ later) after where
  table := by
    rw [second.table, first.table, Option.map_map]
    simp [Function.comp_def]
  distinct table known distinct := by
    rw [← List.append_assoc]
    refine second.distinct _ ?_ (first.distinct table known distinct)
    rw [first.table, known]
    rfl

theorem registered {providers : Providers World P} (tables : providers.Tables idOf tableOf?) {hotkey : String}
    {binding : Binding} {now : World}
    (taken : (providers.register provider hotkey binding now).value = .ok after) :
    Grows tableOf? provider [(idOf hotkey, binding)] after where
  table := tables.appends taken
  distinct table known distinct := by
    have free := tables.free taken table known
    rw [List.map_append]
    exact List.Nodup.append distinct (by simp) (List.disjoint_singleton.mpr free)

end Grows

def ProviderCall.binds? (idOf : String → String) : ProviderCall P → Option (String × Binding)
  | register _ hotkey binding (.ok _) => some (idOf hotkey, binding)
  | _ => none

def ProviderCall.offers? : ProviderCall P → Option String
  | register _ _ (.action name) _ => some name
  | _ => none

section Offers

variable {config : HotkeyConfig} {names : List String} {calls : List (ProviderCall P)} {provider last : P}

theorem Offers.offered (offers : Offers config names provider calls last) :
    calls.filterMap ProviderCall.offers? = names.filter fun name => config.actionHotkey name ≠ "" := by
  induction offers with
  | nil => rfl
  | unset unset others ih => simpa [unset] using ih
  | taken bound others ih => simpa [ProviderCall.offers?, bound] using ih
  | refused bound cause others ih => simpa [ProviderCall.offers?, bound] using ih

theorem Offers.grows {providers : Providers World P} (tables : providers.Tables idOf tableOf?)
    (offers : Offers config names provider calls last)
    (happen : ∀ call ∈ calls, ∃ before after, call.Happens providers before after) :
    Grows tableOf? provider (calls.filterMap (ProviderCall.binds? idOf)) last := by
  induction offers with
  | nil => exact .refl rfl
  | unset unset others ih => exact ih happen
  | taken bound others ih =>
      obtain ⟨before, _, registered, -⟩ := happen _ List.mem_cons_self
      exact (Grows.registered tables registered).trans
        (ih fun call member => happen call (List.mem_cons_of_mem _ member))
  | refused bound cause others ih => exact ih fun call member => happen call (List.mem_cons_of_mem _ member)

end Offers

/-- What a provider that an attempt started has bound: the recording hotkey, and after it the hotkeys of
the actions that it took, of all those that have one. -/
structure Binds (config : HotkeyConfig) (names : List String) (idOf : String → String)
    (calls : List (ProviderCall P)) (table : List (String × Binding)) : Prop where
  offered : calls.filterMap ProviderCall.offers? = names.filter fun name => config.actionHotkey name ≠ ""
  bound : table = calls.filterMap (ProviderCall.binds? idOf)
  distinct : (table.map Prod.fst).Nodup
  recording : table.lookup (idOf config.startRecording) = some .recording

theorem Attempts.binds {providers : Providers World P} (tables : providers.Tables idOf tableOf?)
    {config : HotkeyConfig} {names : List String} {kind : ProviderKind} {calls : List (ProviderCall P)}
    {running : P} (attempts : Attempts config names kind calls (.ok running))
    (happen : ∀ call ∈ calls, ∃ before after, call.Happens providers before after)
    {table : List (String × Binding)} (known : tableOf? running = some table) :
    Binds config names idOf calls table := by
  cases attempts with
  | @started fresh first ready offered offers answer =>
      obtain ⟨begin, _, created, -⟩ := happen (.create kind fresh) (by simp)
      obtain ⟨before, _, registered, -⟩ :=
        happen (.register fresh config.startRecording .recording (.ok first)) (by simp)
      obtain ⟨last, _, started, -⟩ := happen (.start ready (.ok running)) (by simp)
      have grows : Grows tableOf? fresh _ running :=
        (((Grows.registered tables registered).trans (offers.grows tables fun call member =>
          happen call (by simp [member]))).trans (.refl (tables.start started)))
      rw [List.append_nil] at grows
      obtain ⟨empty, made, whole⟩ := Option.map_eq_some_iff.mp (grows.table.symm.trans known)
      obtain rfl : empty = [] := tables.create kind begin empty (created ▸ made)
      have all : (.create kind fresh :: .register fresh config.startRecording .recording (.ok first) ::
          (offered ++ [.start ready (.ok running)])).filterMap (ProviderCall.binds? idOf) = table := by
        simpa [List.filterMap_cons, ProviderCall.binds?] using whole
      refine ⟨?_, all.symm, ?_, ?_⟩
      · simpa [List.filterMap_cons, ProviderCall.offers?] using offers.offered
      · rw [← whole]
        exact grows.distinct [] made List.nodup_nil
      · rw [← whole]
        exact List.lookup_cons_self

end GlobalHotkeys
