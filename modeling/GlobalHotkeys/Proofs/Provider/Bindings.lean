import GlobalHotkeys.Proofs.Listener.Run
import GlobalHotkeys.Proofs.Portal.Start
import GlobalHotkeys.Proofs.Provider.Conversation
import GlobalHotkeys.Provider.Real

namespace GlobalHotkeys

variable {World : Type}

def ProviderKind.idOf? : ProviderKind → String → Option String
  | .portal, hotkey => if normalizeHotkey hotkey = "" then none else some (normalizeHotkey hotkey)
  | .evdev, hotkey =>
    if (unusableHotkey? hotkey).isNone then some (normalizeHotkey hotkey) else none
  | .null, _ => none

def ProviderKind.request (kind : ProviderKind) (hotkey : String) (binding : Binding) :
    List (String × Binding) :=
  ((kind.idOf? hotkey).map fun id => (id, binding)).toList

theorem ProviderKind.request_of_none {kind : ProviderKind} {hotkey : String}
    (refused : kind.idOf? hotkey = none) (binding : Binding) : kind.request hotkey binding = [] := by
  simp [request, refused]

theorem ProviderKind.request_of_some {kind : ProviderKind} {hotkey id : String}
    (taken : kind.idOf? hotkey = some id) (binding : Binding) :
    kind.request hotkey binding = [(id, binding)] := by
  simp [request, taken]

theorem ProviderKind.idOf?_empty (kind : ProviderKind) : kind.idOf? "" = none := by
  cases kind <;> decide +kernel

namespace HotkeyProvider

def bindings : HotkeyProvider → List (String × Binding)
  | portal provider => provider.table
  | evdev listener => listener.table.map fun registration => (registration.id, registration.binding)
  | null _ => []

def ids (provider : HotkeyProvider) : List String :=
  provider.bindings.map Prod.fst

theorem ids_evdev (listener : Listener Binding) : (evdev listener).ids = listener.ids := by
  simp [ids, bindings, Listener.ids, Function.comp_def]

theorem lookup_eq_none_iff {table : List (String × Binding)} {id : String} :
    table.lookup id = none ↔ id ∉ table.map Prod.fst := by
  rw [List.lookup_eq_none_iff, List.mem_map]
  simp only [bne_iff_ne, ne_eq, not_exists, not_and]
  exact forall_congr' fun entry => imp_congr_right fun _ => not_congr eq_comm

theorem exists_of_map_eq_ok {α β : Type} {answer : Except HotkeyError α} {make : α → β} {made : β}
    (mapped : answer.map make = .ok made) : ∃ found, answer = .ok found ∧ make found = made := by
  cases answer with
  | error cause => cases mapped
  | ok found => exact ⟨found, rfl, Except.ok.inj mapped⟩

section Register

variable {provider after : HotkeyProvider} {hotkey : String} {binding : Binding} {world : World}

theorem value_register_portal (provider : PortalProvider Binding) :
    ((portal provider).register hotkey binding world).value =
      (provider.register hotkey binding).map portal := by
  unfold register
  dsimp only
  generalize provider.register hotkey binding = answer
  cases answer with
  | error cause => rfl
  | ok after =>
      dsimp only
      split_ifs
      · rfl
      · rfl

theorem value_register_evdev (listener : Listener Binding) :
    ((evdev listener).register hotkey binding world).value =
      (listener.register hotkey binding).map evdev := by
  unfold register
  dsimp only
  generalize listener.register hotkey binding = answer
  cases answer with
  | error cause => rfl
  | ok after => rfl

theorem idOf?_evdev_eq_some_iff {id : String} :
    ProviderKind.evdev.idOf? hotkey = some id ↔
      (Combination.parse hotkey).Usable ∧ (Combination.parse hotkey).text = id := by
  unfold ProviderKind.idOf? normalizeHotkey
  rw [← unusableHotkey?_eq_none_iff]
  cases refused : unusableHotkey? hotkey with
  | none => simp [refused]
  | some cause => simp [refused]

theorem portal_register_eq_ok_iff {provider after : PortalProvider Binding} :
    provider.register hotkey binding = .ok after ↔
      ∃ id, ProviderKind.portal.idOf? hotkey = some id ∧ id ∉ provider.ids ∧
        after = { provider with table := provider.table ++ [(id, binding)] } := by
  rw [PortalProvider.register_eq_ok_iff, ProviderKind.idOf?]
  split_ifs with empty
  · simp [empty]
  · simp [empty]

theorem evdev_register_eq_ok_iff {listener after : Listener Binding} :
    listener.register hotkey binding = .ok after ↔
      ∃ id, ProviderKind.evdev.idOf? hotkey = some id ∧ id ∉ listener.ids ∧
        after = { listener with
          table := listener.table ++ [{ combination := Combination.parse hotkey, binding }] } := by
  rw [Listener.register_eq_ok_iff]
  constructor
  · rintro ⟨usable, fresh, rfl⟩
    exact ⟨_, idOf?_evdev_eq_some_iff.mpr ⟨usable, rfl⟩, fresh, rfl⟩
  · rintro ⟨id, taken, fresh, rfl⟩
    obtain ⟨usable, rfl⟩ := idOf?_evdev_eq_some_iff.mp taken
    exact ⟨usable, fresh, rfl⟩

theorem register_eq_ok (real : provider.kind ≠ .null)
    (registered : (provider.register hotkey binding world).value = .ok after) :
    ∃ id, provider.kind.idOf? hotkey = some id ∧ id ∉ provider.ids ∧ after.kind = provider.kind ∧
      after.bindings = provider.bindings ++ [(id, binding)] := by
  cases provider with
  | null provider => exact absurd rfl real
  | portal provider =>
      rw [value_register_portal] at registered
      obtain ⟨next, taken, rfl⟩ := exists_of_map_eq_ok registered
      obtain ⟨id, named, fresh, rfl⟩ := portal_register_eq_ok_iff.mp taken
      exact ⟨id, named, fresh, rfl, rfl⟩
  | evdev listener =>
      rw [value_register_evdev] at registered
      obtain ⟨next, taken, rfl⟩ := exists_of_map_eq_ok registered
      obtain ⟨id, named, fresh, rfl⟩ := evdev_register_eq_ok_iff.mp taken
      refine ⟨id, named, by rwa [ids_evdev], rfl, ?_⟩
      obtain ⟨-, rfl⟩ := idOf?_evdev_eq_some_iff.mp named
      simp [bindings, Registration.id]

theorem bindings_of_register_null (idle : provider.kind = .null)
    (registered : (provider.register hotkey binding world).value = .ok after) :
    after.kind = provider.kind ∧ after.bindings = provider.bindings := by
  cases provider with
  | null provider =>
      cases registered
      exact ⟨rfl, rfl⟩
  | portal provider => cases idle
  | evdev listener => cases idle

theorem register_eq_error {cause : HotkeyError}
    (refused : (provider.register hotkey binding world).value = .error cause) {id : String}
    (named : provider.kind.idOf? hotkey = some id) : id ∈ provider.ids := by
  by_contra fresh
  cases provider with
  | null provider => cases named
  | portal provider =>
      rw [value_register_portal,
        portal_register_eq_ok_iff.mpr ⟨id, named, fresh, rfl⟩] at refused
      cases refused
  | evdev listener =>
      rw [ids_evdev] at fresh
      rw [value_register_evdev,
        evdev_register_eq_ok_iff.mpr ⟨id, named, fresh, rfl⟩] at refused
      cases refused

end Register

theorem table_of_startListener {keyboards : KeyboardAccess World} {listener : Listener Binding}
    {after : HotkeyProvider} {world : World}
    (started : (startListener keyboards listener world).value = .ok after) :
    ∃ next, after = evdev next ∧ next.table = listener.table := by
  unfold startListener at started
  split_ifs at started
  simp only [Run.bind_apply] at started
  cases begun : listener.start (keyboards.openAll world).value with
  | error cause =>
      rw [begun] at started
      cases started
  | ok next =>
      rw [begun] at started
      cases started
      obtain ⟨-, _, -, -, rfl⟩ := Listener.start_eq_ok_iff.mp begun
      exact ⟨_, rfl, rfl⟩

theorem bindings_of_start {machine : Machine World} {provider after : HotkeyProvider} {world : World}
    (started : (provider.start machine world).value = .ok after) :
    after.kind = provider.kind ∧ after.bindings = provider.bindings := by
  cases provider with
  | portal provider =>
      simp only [start, Run.bind_apply, Run.pure_apply] at started
      obtain ⟨next, begun, rfl⟩ := exists_of_map_eq_ok started
      exact ⟨rfl, PortalProvider.table_of_start begun⟩
  | evdev listener =>
      obtain ⟨next, rfl, table⟩ := table_of_startListener started
      exact ⟨rfl, by simp only [bindings, table]⟩
  | null provider =>
      simp only [start] at started
      cases begun : provider.start with
      | error cause =>
          rw [begun] at started
          cases started
      | ok next =>
          rw [begun] at started
          cases started
          exact ⟨rfl, rfl⟩

/-- The provider is of this kind, no id stands in its table twice, and each is bound to what the first
of these requests for it asks. -/
structure Grants (provider : HotkeyProvider) (kind : ProviderKind)
    (requests : List (String × Binding)) : Prop where
  kind : provider.kind = kind
  distinct : provider.ids.Nodup
  bound : ∀ id, provider.bindings.lookup id = requests.lookup id

namespace Grants

variable {provider after : HotkeyProvider} {kind : ProviderKind} {hotkey : String} {binding : Binding}
  {requests later : List (String × Binding)}

theorem fresh (kind : ProviderKind) : (HotkeyProvider.fresh kind).Grants kind [] := by
  cases kind <;> exact ⟨rfl, List.nodup_nil, fun _ => rfl⟩

theorem congr (grants : provider.Grants kind requests) (sameKind : after.kind = provider.kind)
    (same : after.bindings = provider.bindings) : after.Grants kind requests where
  kind := sameKind.trans grants.kind
  distinct := by rw [ids, same]; exact grants.distinct
  bound id := by rw [same]; exact grants.bound id

theorem taken (grants : provider.Grants kind requests) {world : World}
    (registered : (provider.register hotkey binding world).value = .ok after) :
    after.Grants kind (requests ++ kind.request hotkey binding) := by
  by_cases real : provider.kind = .null
  -- The null provider takes everything, but nothing of it stands in a table.
  · obtain ⟨sameKind, same⟩ := bindings_of_register_null real registered
    have nothing : kind.request hotkey binding = [] := by
      rw [← grants.kind, real]
      rfl
    rw [nothing, List.append_nil]
    exact grants.congr sameKind same
  · obtain ⟨rfl, distinct, bound⟩ := grants
    obtain ⟨id, named, free, sameKind, appended⟩ := register_eq_ok real registered
    rw [ProviderKind.request_of_some named]
    refine ⟨sameKind, ?_, fun other => ?_⟩
    · rw [ids, appended, List.map_append]
      exact List.Nodup.append distinct (by simp) (List.disjoint_singleton.mpr free)
    · rw [appended, List.lookup_append, bound, List.lookup_append]

theorem refused (grants : provider.Grants kind requests) {world : World} {cause : HotkeyError}
    (rejected : (provider.register hotkey binding world).value = .error cause) :
    provider.Grants kind (requests ++ kind.request hotkey binding) := by
  obtain ⟨rfl, distinct, bound⟩ := grants
  refine ⟨rfl, distinct, fun other => ?_⟩
  cases named : provider.kind.idOf? hotkey with
  | none => rw [ProviderKind.request_of_none named, List.append_nil, bound]
  | some id =>
      have known : id ∈ provider.ids := register_eq_error rejected named
      rw [ProviderKind.request_of_some named, List.lookup_append, ← bound]
      -- The request stands behind one for the same id, so it is never looked up.
      cases found : provider.bindings.lookup other with
      | some binding => rfl
      | none =>
          have differs : (other == id) = false :=
            beq_eq_false_iff_ne.mpr fun same => lookup_eq_none_iff.mp found (same ▸ known)
          simp [List.lookup_cons, differs]

theorem moved {before : List (String × Binding)} {id : String}
    (grants : provider.Grants kind (before ++ later ++ [(id, binding)]))
    (free : (before ++ later).lookup id = none) :
    provider.Grants kind (before ++ (id, binding) :: later) := by
  refine ⟨grants.kind, grants.distinct, fun other => ?_⟩
  rw [grants.bound]
  by_cases same : other = id
  · subst same
    rw [List.lookup_append, free]
    rw [List.lookup_append, Option.or_eq_none_iff] at free
    simp [List.lookup_append, free.1]
  · have differs : (other == id) = false := beq_eq_false_iff_ne.mpr same
    simp [List.lookup_append, List.lookup_cons, differs]

theorem mem_iff (grants : provider.Grants kind requests) {entry : String × Binding} :
    entry ∈ provider.bindings ↔ requests.lookup entry.1 = some entry.2 := by
  rw [← grants.bound, List.lookup_eq_some_iff]
  constructor
  · intro member
    -- No earlier entry has the same id, since the ids are distinct.
    obtain ⟨before, after, split⟩ := List.append_of_mem member
    refine ⟨before, after, split, fun other earlier => ?_⟩
    have distinct := grants.distinct
    rw [ids, split, List.map_append, List.map_cons, List.nodup_append] at distinct
    have differs := distinct.2.2 other.1 (List.mem_map_of_mem earlier) entry.1 (by simp)
    simpa using differs.symm
  · rintro ⟨before, after, split, -⟩
    simp [split]

/-- The requests determine the table up to the order of its entries. -/
theorem perm {other : HotkeyProvider} (grants : provider.Grants kind requests)
    (same : other.Grants kind requests) : provider.bindings.Perm other.bindings := by
  rw [List.perm_ext_iff_of_nodup grants.distinct.of_map same.distinct.of_map]
  exact fun entry => grants.mem_iff.trans same.mem_iff.symm

end Grants

end HotkeyProvider

end GlobalHotkeys
