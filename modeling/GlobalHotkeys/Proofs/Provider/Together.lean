import GlobalHotkeys.Proofs.Hotkey.Normalization
import GlobalHotkeys.Proofs.Listener.Reachable
import GlobalHotkeys.Proofs.Portal.Start

namespace GlobalHotkeys

variable {β : Type}

theorem Combination.Usable.normalizeHotkey_ne_empty {hotkey : String}
    (usable : (parse hotkey).Usable) : normalizeHotkey hotkey ≠ "" := by
  intro empty
  have read := parse_normalizeHotkey hotkey
  rw [empty] at read
  have keyless : (parse "").key = "" := by decide
  exact usable.nonempty (read ▸ keyless)

namespace Listener

def entries (listener : Listener β) : List (String × β) :=
  listener.table.map fun registration => (registration.id, registration.binding)

theorem ids_eq_map_entries (listener : Listener β) : listener.ids = listener.entries.map Prod.fst := by
  rw [entries, List.map_map]
  rfl

theorem register_of_fresh {listener : Listener β} {hotkey : String} (binding : β)
    (usable : (Combination.parse hotkey).Usable) (fresh : normalizeHotkey hotkey ∉ listener.ids) :
    ∃ after, listener.register hotkey binding = .ok after ∧
      after.entries = listener.entries ++ [(normalizeHotkey hotkey, binding)] := by
  refine ⟨_, register_eq_ok_iff.mpr ⟨usable, fresh, rfl⟩, ?_⟩
  rw [entries, List.map_append]
  rfl

def takes (request : String × β) : Bool :=
  (({} : Listener β).register request.1 request.2).isOk

theorem takes_iff {request : String × β} :
    takes request = true ↔ (Combination.parse request.1).Usable := by
  rw [← accepted_iff_usable, takes]
  cases ({} : Listener β).register request.1 request.2 with
  | error cause => simp [Except.isOk, Except.toBool]
  | ok listener => simp [Except.isOk, Except.toBool]

theorem takes_normalizeHotkey (hotkey : String) (binding : β) :
    takes (normalizeHotkey hotkey, binding) = takes (hotkey, binding) := by
  rw [Bool.eq_iff_iff, takes_iff, takes_iff, parse_normalizeHotkey]

end Listener

structure Pair (β : Type) where
  listener : Listener β := {}
  portal : PortalProvider β := {}

namespace Pair

def register (pair : Pair β) (hotkey : String) (binding : β) : Pair β where
  listener := (pair.listener.register hotkey binding).toOption.getD pair.listener
  portal := (pair.portal.register hotkey binding).toOption.getD pair.portal

def after (requests : List (String × β)) : Pair β :=
  requests.foldl (fun pair request => pair.register request.1 request.2) {}

/-- The listener's table is what a new listener takes of the portal's. -/
def Aligned (pair : Pair β) : Prop :=
  pair.listener.entries = pair.portal.table.filter Listener.takes

/-- The portal's table holds only what was asked for, under its normal form. -/
def Asked (pair : Pair β) (requests : List (String × β)) : Prop :=
  ∀ entry ∈ pair.portal.table, ∃ request ∈ requests, entry = (normalizeHotkey request.1, request.2)

section Step

variable {pair : Pair β} {hotkey : String}

theorem Aligned.known_iff (aligned : pair.Aligned) (usable : (Combination.parse hotkey).Usable) :
    normalizeHotkey hotkey ∈ pair.listener.ids ↔ normalizeHotkey hotkey ∈ pair.portal.ids := by
  rw [Listener.ids_eq_map_entries, aligned, PortalProvider.ids]
  constructor
  · exact fun known => (List.filter_sublist.map Prod.fst).subset known
  · intro known
    obtain ⟨entry, member, same⟩ := List.mem_map.mp known
    -- The id reads as the hotkey does, so the portal was not alone in taking it.
    have taken : Listener.takes entry = true := by
      rw [Listener.takes_iff, same, parse_normalizeHotkey]
      exact usable
    exact List.mem_map.mpr ⟨entry, List.mem_filter.mpr ⟨member, taken⟩, same⟩

theorem Aligned.both_take (aligned : pair.Aligned) (binding : β)
    (usable : (Combination.parse hotkey).Usable)
    (fresh : normalizeHotkey hotkey ∉ pair.listener.ids) :
    ∃ listener portal, pair.listener.register hotkey binding = .ok listener ∧
      pair.portal.register hotkey binding = .ok portal ∧
      listener.entries = pair.listener.entries ++ [(normalizeHotkey hotkey, binding)] ∧
      portal.table = pair.portal.table ++ [(normalizeHotkey hotkey, binding)] := by
  obtain ⟨listener, taken, entries⟩ := Listener.register_of_fresh binding usable fresh
  rw [aligned.known_iff usable] at fresh
  exact ⟨listener, _, taken, PortalProvider.register_eq_ok_iff.mpr
    ⟨usable.normalizeHotkey_ne_empty, fresh, rfl⟩, entries, rfl⟩

theorem Aligned.both_refuse (aligned : pair.Aligned) (binding : β)
    (usable : (Combination.parse hotkey).Usable)
    (known : normalizeHotkey hotkey ∈ pair.listener.ids) :
    pair.listener.register hotkey binding = .error (.alreadyRegistered (normalizeHotkey hotkey)) ∧
      pair.portal.register hotkey binding = .error (.alreadyRegistered (normalizeHotkey hotkey)) :=
  ⟨Listener.register_taken binding usable known,
    PortalProvider.register_taken binding usable.normalizeHotkey_ne_empty
      ((aligned.known_iff usable).mp known)⟩

theorem table_register (pair : Pair β) (hotkey : String) (binding : β) :
    (pair.register hotkey binding).portal.table = pair.portal.table ∨
      (pair.register hotkey binding).portal.table =
        pair.portal.table ++ [(normalizeHotkey hotkey, binding)] := by
  unfold register
  cases answer : pair.portal.register hotkey binding with
  | error cause => exact .inl rfl
  | ok portal =>
      obtain ⟨-, -, rfl⟩ := PortalProvider.register_eq_ok_iff.mp answer
      exact .inr rfl

theorem Aligned.register (aligned : pair.Aligned) (hotkey : String) (binding : β) :
    (pair.register hotkey binding).Aligned := by
  by_cases usable : (Combination.parse hotkey).Usable
  · by_cases known : normalizeHotkey hotkey ∈ pair.listener.ids
    · obtain ⟨here, there⟩ := aligned.both_refuse binding usable known
      unfold Pair.register
      rw [here, there]
      exact aligned
    · obtain ⟨listener, portal, here, there, entries, table⟩ :=
        aligned.both_take binding usable known
      have taken : Listener.takes (normalizeHotkey hotkey, binding) = true := by
        rw [Listener.takes_normalizeHotkey, Listener.takes_iff]
        exact usable
      unfold Pair.register
      rw [here, there]
      show listener.entries = portal.table.filter Listener.takes
      rw [entries, table, aligned, List.filter_append, List.filter_cons_of_pos taken, List.filter_nil]
  -- The listener stays as it is, and passes over what the portal may have taken.
  · obtain ⟨name, refused⟩ := Listener.register_of_not_usable usable pair.listener binding
    have same : (pair.register hotkey binding).listener = pair.listener := by
      unfold Pair.register
      rw [refused]
      rfl
    unfold Aligned
    rcases table_register pair hotkey binding with table | table
    · rw [same, table, aligned]
    · have passed : ¬ Listener.takes (normalizeHotkey hotkey, binding) = true := by
        rw [Listener.takes_normalizeHotkey, Listener.takes_iff]
        exact usable
      rw [same, table, aligned, List.filter_append, List.filter_cons_of_neg passed, List.filter_nil,
        List.append_nil]

end Step

theorem aligned_after (requests : List (String × β)) : (after requests).Aligned :=
  List.foldlRecOn requests _ rfl fun _ aligned request _ => aligned.register request.1 request.2

theorem asked_after (requests : List (String × β)) : (after requests).Asked requests := by
  have nothing : ({} : Pair β).Asked requests := fun _ member => absurd member List.not_mem_nil
  refine List.foldlRecOn (motive := fun pair : Pair β => pair.Asked requests) requests _ nothing ?_
  intro pair earlier request given entry member
  rcases table_register pair request.1 request.2 with table | table
  · exact earlier entry (table ▸ member)
  · rw [table] at member
    rcases List.mem_append.mp member with old | new
    · exact earlier entry old
    · exact ⟨request, given, List.mem_singleton.mp new⟩

/-- After any requests to both: a hotkey that the listener takes the portal takes under the same id; one
that the listener knows already the portal knows under the same id; and the listener's table is what a new
listener takes of the portal's. If it takes every hotkey that was asked for, both bind the same. -/
theorem listener_within_portal (requests : List (String × β)) (hotkey : String) (binding : β) :
    let pair := after requests
    (∀ listener, pair.listener.register hotkey binding = .ok listener →
      ∃ id portal, pair.portal.register hotkey binding = .ok portal ∧
        listener.entries = pair.listener.entries ++ [(id, binding)] ∧
        portal.table = pair.portal.table ++ [(id, binding)]) ∧
    (∀ id, pair.listener.register hotkey binding = .error (.alreadyRegistered id) →
      pair.portal.register hotkey binding = .error (.alreadyRegistered id)) ∧
    pair.listener.entries = pair.portal.table.filter Listener.takes ∧
    ((∀ request ∈ requests, Listener.takes request = true) →
      pair.listener.entries = pair.portal.table) := by
  intro pair
  have aligned : pair.Aligned := aligned_after requests
  refine ⟨fun listener taken => ?_, fun id refused => ?_, aligned, fun all => ?_⟩
  · obtain ⟨usable, fresh, -⟩ := Listener.register_eq_ok_iff.mp taken
    obtain ⟨same, portal, here, there, entries, table⟩ := aligned.both_take binding usable fresh
    obtain rfl : same = listener := Except.ok.inj (here.symm.trans taken)
    exact ⟨_, portal, there, entries, table⟩
  · by_cases usable : (Combination.parse hotkey).Usable
    · by_cases known : normalizeHotkey hotkey ∈ pair.listener.ids
      · obtain ⟨here, there⟩ := aligned.both_refuse binding usable known
        obtain rfl := HotkeyError.alreadyRegistered.inj (Except.error.inj (here.symm.trans refused))
        exact there
      · obtain ⟨_, _, here, -⟩ := aligned.both_take binding usable known
        cases here.symm.trans refused
    · obtain ⟨name, other⟩ := Listener.register_of_not_usable usable pair.listener binding
      cases other.symm.trans refused
  · have whole : pair.portal.table.filter Listener.takes = pair.portal.table := by
      refine List.filter_eq_self.mpr fun entry member => ?_
      obtain ⟨request, given, rfl⟩ := asked_after requests entry member
      rw [Listener.takes_normalizeHotkey]
      exact all request given
    exact aligned.trans whole

-- A hotkey without a key, or with an unknown one, is known to the portal alone.
example :
    let pair := after [("ctrl+", 1), (" Ctrl + R ", 2), ("nosuchkey", 3), ("ctrl+r", 4)]
    pair.listener.entries = [("ctrl+r", 2)] ∧
      pair.portal.table = [("ctrl+", 1), ("ctrl+r", 2), ("nosuchkey", 3)] := by
  decide +kernel

end Pair

end GlobalHotkeys
