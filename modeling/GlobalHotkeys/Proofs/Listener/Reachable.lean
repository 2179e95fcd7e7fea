import GlobalHotkeys.Proofs.Listener.Firing

namespace GlobalHotkeys

variable {β : Type}

namespace Listener

def waitingFor (hotkey : String) (binding : β) (events : List KeyEvent) : Listener β :=
  { table := [{ combination := Combination.parse hotkey, binding }], held := heldAfter events }

/-- Whether the event fires the hotkey after the events. -/
def Fires (hotkey : String) (binding : β) (events : List KeyEvent) (event : KeyEvent) : Prop :=
  { combination := Combination.parse hotkey, binding } ∈
    (waitingFor hotkey binding events).fired event

theorem accepted_iff_usable {hotkey : String} {binding : β} :
    (∃ listener, ({} : Listener β).register hotkey binding = .ok listener) ↔
      (Combination.parse hotkey).Usable := by
  simp only [register_eq_ok_iff]
  constructor
  · rintro ⟨listener, usable, -, -⟩
    exact usable
  · exact fun usable => ⟨_, usable, List.not_mem_nil, rfl⟩

theorem fires_iff {hotkey : String} {binding : β} {events : List KeyEvent} {event : KeyEvent} :
    Fires hotkey binding events event ↔
      ∃ key, event.pressedKey? = some key ∧
        (Combination.parse hotkey).triggeredBy key (heldAfter events) = true := by
  unfold Fires
  rw [mem_fired_iff]
  exact and_iff_right (List.mem_singleton.mpr rfl)

theorem usable_of_fires {hotkey : String} {binding : β} {events : List KeyEvent} {event : KeyEvent}
    (fires : Fires hotkey binding events event) : (Combination.parse hotkey).Usable := by
  have normal := Combination.parse_normal hotkey
  obtain ⟨key, pressed, triggered⟩ := fires_iff.mp fires
  have canonical := (normalName_of_pressedKey? pressed).2
  obtain ⟨-, rfl, held⟩ := (Combination.triggeredBy_iff normal.key canonical).mp triggered
  refine usable_of_pressedKey? pressed fun modifier member => ?_
  obtain ⟨side, named, -⟩ := (holds_heldAfter_iff events modifier).mp (held modifier member)
  exact (isModifier_iff (normal.modifiers modifier member).2).mpr ⟨side, named⟩

def modifierCodes : List KeyCode :=
  Side.all.map Side.code

theorem holds_after_modifierCodes {modifier : String} (canonical : canonicalKey modifier = modifier)
    (isOne : isModifier modifier = true) :
    (heldAfter (modifierCodes.map KeyEvent.press)).holds modifier = true := by
  obtain ⟨side, named⟩ := (isModifier_iff canonical).mp isOne
  refine (holds_heldAfter_iff _ _).mpr ⟨side, named, ?_⟩
  rw [modifierCodes, List.map_map]
  exact lastPressed_all side

theorem exists_press_of_usable {combination : Combination} (usable : combination.Usable)
    (normal : combination.Normal) :
    ∃ code, (KeyEvent.press code).pressedKey? = some combination.key := by
  obtain ⟨code, coded⟩ := Option.isSome_iff_exists.mp usable.coded
  have named := (keyCode?_eq_some_iff normal.key.2).mp coded
  have side : (Side.ofCode? code).isSome = false :=
    (isModifier_of_keyName? named).symm.trans usable.main
  have other : (KeyEvent.press code).side? = none := by
    rw [← Option.isNone_iff_eq_none, ← Option.isSome_eq_false_iff]
    exact side
  exact ⟨code, pressedKey?_eq_some_iff.mpr ⟨rfl, other, named⟩⟩

theorem fires_of_usable {hotkey : String} {binding : β} (usable : (Combination.parse hotkey).Usable) :
    ∃ code, Fires hotkey binding (modifierCodes.map KeyEvent.press) (.press code) := by
  have normal := Combination.parse_normal hotkey
  obtain ⟨code, pressed⟩ := exists_press_of_usable usable normal
  refine ⟨code, fires_iff.mpr ⟨_, pressed, ?_⟩⟩
  rw [Combination.triggeredBy_iff normal.key normal.key.2]
  refine ⟨usable.nonempty, rfl, fun modifier member => ?_⟩
  exact holds_after_modifierCodes (normal.modifiers modifier member).2
    (usable.modifiers modifier member)

/-- A new listener takes a hotkey if and only if some events can ever fire it, and then presses
alone are enough. -/
theorem accepted_iff_exists_fires (hotkey : String) (binding : β) :
    ((∃ listener, ({} : Listener β).register hotkey binding = .ok listener) ↔
      ∃ events event, Fires hotkey binding events event) ∧
    ((∃ listener, ({} : Listener β).register hotkey binding = .ok listener) ↔
      ∃ (codes : List KeyCode) (code : KeyCode),
        Fires hotkey binding (codes.map KeyEvent.press) (.press code)) := by
  rw [accepted_iff_usable]
  constructor
  · constructor
    · intro usable
      obtain ⟨code, fires⟩ := fires_of_usable usable
      exact ⟨_, _, fires⟩
    · rintro ⟨events, event, fires⟩
      exact usable_of_fires fires
  · constructor
    · intro usable
      obtain ⟨code, fires⟩ := fires_of_usable usable
      exact ⟨_, _, fires⟩
    · rintro ⟨codes, code, fires⟩
      exact usable_of_fires fires

end Listener

end GlobalHotkeys
