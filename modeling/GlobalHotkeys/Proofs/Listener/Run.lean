import GlobalHotkeys.Listener.Basic
import GlobalHotkeys.Proofs.Hotkey.Combination
import GlobalHotkeys.Proofs.Keyboard.Event

namespace GlobalHotkeys

variable {β : Type}

structure Combination.Usable (combination : Combination) : Prop where
  nonempty : combination.key ≠ ""
  coded : (keyCode? combination.key).isSome = true
  main : isModifier combination.key = false
  modifiers : ∀ modifier ∈ combination.modifiers, isModifier modifier = true

theorem unusableHotkey?_eq_none_iff {hotkey : String} :
    unusableHotkey? hotkey = none ↔ (Combination.parse hotkey).Usable := by
  rw [unusableHotkey?]
  generalize Combination.parse hotkey = combination
  split_ifs with refused
  · refine iff_of_false (by simp) fun usable => ?_
    simp [usable.nonempty, usable.main, Option.isSome_iff_ne_none.mp usable.coded] at refused
  · simp only [Bool.or_eq_true, beq_iff_eq, not_or, Bool.not_eq_true, Option.isNone_eq_false_iff]
      at refused
    obtain ⟨⟨nonempty, coded⟩, main⟩ := refused
    simp only [Option.map_eq_none_iff, List.find?_eq_none, Bool.not_eq_true', Bool.not_eq_false]
    exact ⟨fun modifiers => ⟨nonempty, coded, main, modifiers⟩, fun usable => usable.modifiers⟩

theorem unusableHotkey?_of_not_usable {hotkey : String}
    (useless : ¬ (Combination.parse hotkey).Usable) :
    ∃ name, unusableHotkey? hotkey = some (.unknownKey name) := by
  obtain ⟨cause, refused⟩ := Option.ne_none_iff_exists'.mp (mt unusableHotkey?_eq_none_iff.mp useless)
  have named := refused
  unfold unusableHotkey? at named
  dsimp only at named
  split_ifs at named
  · exact ⟨_, refused.trans named.symm⟩
  · obtain ⟨modifier, -, rfl⟩ := Option.map_eq_some_iff.mp named
    exact ⟨modifier, refused⟩

namespace Listener

theorem register_eq_ok_iff {listener after : Listener β} {hotkey : String} {binding : β} :
    listener.register hotkey binding = .ok after ↔
      (Combination.parse hotkey).Usable ∧ (Combination.parse hotkey).text ∉ listener.ids ∧
        after = { listener with
          table := listener.table ++ [{ combination := Combination.parse hotkey, binding }] } := by
  rw [← unusableHotkey?_eq_none_iff]
  unfold register
  cases unusableHotkey? hotkey with
  | some cause => simp
  | none =>
      simp only [Registration.id, List.contains_eq_mem, decide_eq_true_eq, true_and]
      split_ifs with present
      · simp [present]
      · simp [present, eq_comm]

theorem register_taken {listener : Listener β} {hotkey : String} (binding : β)
    (usable : (Combination.parse hotkey).Usable) (taken : normalizeHotkey hotkey ∈ listener.ids) :
    listener.register hotkey binding = .error (.alreadyRegistered (normalizeHotkey hotkey)) := by
  unfold register
  rw [unusableHotkey?_eq_none_iff.mpr usable]
  exact if_pos (List.contains_iff_mem.mpr taken)

theorem register_of_not_usable {hotkey : String} (useless : ¬ (Combination.parse hotkey).Usable)
    (listener : Listener β) (binding : β) :
    ∃ name, listener.register hotkey binding = .error (.unknownKey name) := by
  obtain ⟨name, refused⟩ := unusableHotkey?_of_not_usable useless
  refine ⟨name, ?_⟩
  unfold register
  rw [refused]

theorem start_eq_ok_iff {listener after : Listener β} {opened : Except HotkeyError (List Keyboard)} :
    listener.start opened = .ok after ↔
      listener.reading = none ∧ ∃ keyboards, opened = .ok keyboards ∧ keyboards ≠ [] ∧
        after = { listener with held := {}, reading := some keyboards } := by
  unfold start isListening
  cases listener.reading with
  | some keyboards => simp [bind, Except.bind, throw, throwThe, MonadExceptOf.throw]
  | none =>
      cases opened with
      | error cause => simp [bind, Except.bind]
      | ok keyboards =>
          cases keyboards with
          | nil => simp [bind, Except.bind, throw, throwThe, MonadExceptOf.throw]
          | cons keyboard rest => simp [bind, Except.bind, pure, Except.pure, eq_comm]

inductive Step (β : Type) where
  | register (hotkey : String) (binding : β)
  | start (opened : Except HotkeyError (List Keyboard))
  | stop
  | read (index : Nat) (reading : Reading)

/-- A listener, and the events it has handled since it last started. -/
structure Course (β : Type) where
  listener : Listener β := {}
  heard : List KeyEvent := []

namespace Course

def register (course : Course β) (hotkey : String) (binding : β) : Course β :=
  match course.listener.register hotkey binding with
  | .ok listener => { course with listener }
  | .error _ => course

def start (course : Course β) (opened : Except HotkeyError (List Keyboard)) : Course β :=
  match course.listener.start opened with
  | .ok listener => { listener, heard := [] }
  | .error _ => course

def read (course : Course β) (index : Nat) (reading : Reading) : Course β :=
  { listener := (course.listener.read index reading).2
    heard :=
      match reading with
      | .event event => if course.listener.reads index then course.heard ++ [event] else course.heard
      | .failure _ => course.heard }

def step (course : Course β) : Step β → Course β
  | .register hotkey binding => course.register hotkey binding
  | .start opened => course.start opened
  | .stop => { course with listener := course.listener.stop }
  | .read index reading => course.read index reading

def after (steps : List (Step β)) : Course β :=
  steps.foldl step {}

structure Sound (course : Course β) : Prop where
  ids : course.listener.ids.Nodup
  usable : ∀ registration ∈ course.listener.table,
    registration.combination.Usable ∧ registration.combination.Normal
  held : course.listener.held = heldAfter course.heard

theorem sound_start : ({} : Course β).Sound where
  ids := List.nodup_nil
  usable := by simp
  held := rfl

theorem Sound.register {course : Course β} (sound : course.Sound) (hotkey : String) (binding : β) :
    (course.register hotkey binding).Sound := by
  unfold Course.register
  generalize registered : course.listener.register hotkey binding = result
  cases result with
  | error cause => exact sound
  | ok listener =>
      obtain ⟨usable, fresh, rfl⟩ := register_eq_ok_iff.mp registered
      refine ⟨?_, ?_, sound.held⟩
      · rw [Listener.ids, List.map_append]
        apply List.Nodup.append sound.ids (List.nodup_singleton _)
        exact List.disjoint_singleton.mpr fresh
      · intro registration member
        rcases List.mem_append.mp member with earlier | new
        · exact sound.usable registration earlier
        · rw [List.mem_singleton.mp new]
          exact ⟨usable, Combination.parse_normal hotkey⟩

theorem Sound.start {course : Course β} (sound : course.Sound)
    (opened : Except HotkeyError (List Keyboard)) : (course.start opened).Sound := by
  unfold Course.start
  generalize started : course.listener.start opened = result
  cases result with
  | error cause => exact sound
  | ok listener =>
      obtain ⟨-, keyboards, -, -, rfl⟩ := start_eq_ok_iff.mp started
      exact ⟨sound.ids, sound.usable, rfl⟩

theorem Sound.read {course : Course β} (sound : course.Sound) (index : Nat) (reading : Reading) :
    (course.read index reading).Sound := by
  unfold Course.read Listener.read
  by_cases reads : course.listener.reads index = true
  · rw [if_pos reads]
    cases reading with
    | failure reason => exact ⟨sound.ids, sound.usable, sound.held⟩
    | event event =>
        refine ⟨sound.ids, sound.usable, ?_⟩
        show course.listener.held.track event = heldAfter (if _ then _ else _)
        rw [if_pos reads, heldAfter_append, sound.held]
  · rw [if_neg reads]
    cases reading with
    | failure reason => exact ⟨sound.ids, sound.usable, sound.held⟩
    | event event =>
        refine ⟨sound.ids, sound.usable, ?_⟩
        show course.listener.held = heldAfter (if _ then _ else _)
        rw [if_neg reads, sound.held]

theorem Sound.step {course : Course β} (sound : course.Sound) (next : Step β) :
    (course.step next).Sound := by
  cases next with
  | register hotkey binding => exact sound.register hotkey binding
  | start opened => exact sound.start opened
  | stop => exact ⟨sound.ids, sound.usable, sound.held⟩
  | read index reading => exact sound.read index reading

theorem sound_after (steps : List (Step β)) : (after steps).Sound := by
  induction steps using List.reverseRecOn with
  | nil => exact sound_start
  | append_singleton steps next ih =>
      rw [after, List.foldl_concat]
      exact ih.step next

end Course

end Listener

end GlobalHotkeys
