import GlobalHotkeys.Proofs.Listener.Run

namespace GlobalHotkeys

variable {β : Type}

theorem pressedKey?_eq_some_iff {event : KeyEvent} {key : String} :
    event.pressedKey? = some key ↔
      event.value = keyPress ∧ event.side? = none ∧ keyName? event.code = some key := by
  unfold KeyEvent.pressedKey?
  split_ifs with pressed
  · simp only [Bool.and_eq_true, Option.isNone_iff_eq_none, beq_iff_eq] at pressed
    simp [pressed.1, pressed.2]
  · refine iff_of_false (by simp) fun both => pressed ?_
    simp [both.1, both.2.1]

theorem normalName_of_pressedKey? {event : KeyEvent} {key : String}
    (pressed : event.pressedKey? = some key) : Combination.NormalName key := by
  obtain ⟨-, -, named⟩ := pressedKey?_eq_some_iff.mp pressed
  exact ⟨plus_not_mem_keyName named, canonicalKey_of_keyName? named⟩

theorem usable_of_pressedKey? {event : KeyEvent} {combination : Combination}
    (pressed : event.pressedKey? = some combination.key)
    (modifiers : ∀ modifier ∈ combination.modifiers, isModifier modifier = true) :
    combination.Usable := by
  obtain ⟨-, side, named⟩ := pressedKey?_eq_some_iff.mp pressed
  refine ⟨?_, ?_, ?_, modifiers⟩
  · intro empty
    rw [empty] at named
    exact keyName?_nonempty named
  · rw [(keyCode?_eq_some_iff (canonicalKey_of_keyName? named)).mpr named]
    rfl
  · rw [isModifier_of_keyName? named]
    show event.side?.isSome = false
    rw [side]
    rfl

theorem Combination.triggeredBy_heldAfter_iff {combination : Combination} {key : String}
    {events : List KeyEvent} (usable : combination.Usable) (normal : combination.Normal)
    (canonical : canonicalKey key = key) :
    combination.triggeredBy key (heldAfter events) = true ↔
      combination.key = key ∧
        ∀ modifier ∈ combination.modifiers, ∃ side ∈ sidesNamed modifier,
          LastPressed side events := by
  rw [triggeredBy_iff normal.key canonical]
  simp only [holds_heldAfter_iff, ne_eq, usable.nonempty, not_false_eq_true, true_and]

namespace Listener

theorem isListening_of_reads {listener : Listener β} {index : Nat}
    (reads : listener.reads index = true) : listener.isListening = true := by
  unfold Listener.reads openKeyboards at reads
  unfold isListening
  cases keyboards : listener.reading with
  | none => simp [keyboards] at reads
  | some keyboards => rfl

theorem mem_fired_iff {listener : Listener β} {event : KeyEvent}
    {registration : Registration β} :
    registration ∈ listener.fired event ↔
      registration ∈ listener.table ∧ ∃ key, event.pressedKey? = some key ∧
        registration.combination.triggeredBy key listener.held = true := by
  unfold fired triggered
  cases event.pressedKey? with
  | none => simp
  | some key => simp

theorem fired_sublist (listener : Listener β) (event : KeyEvent) :
    (listener.fired event).Sublist listener.table := by
  unfold fired
  cases event.pressedKey? with
  | none => exact List.nil_sublist _
  | some key => exact List.filter_sublist

theorem read_event_fst (listener : Listener β) (index : Nat) (event : KeyEvent) :
    (listener.read index (.event event)).1 =
      if listener.reads index then listener.fired event else [] := by
  unfold read
  split_ifs <;> rfl

theorem Course.Sound.mem_fired_iff {course : Course β} (sound : course.Sound) {event : KeyEvent}
    {registration : Registration β} :
    registration ∈ course.listener.fired event ↔
      registration ∈ course.listener.table ∧ event.value = keyPress ∧ event.side? = none ∧
        keyName? event.code = some registration.combination.key ∧
        ∀ modifier ∈ registration.combination.modifiers, ∃ side ∈ sidesNamed modifier,
          LastPressed side course.heard := by
  rw [Listener.mem_fired_iff]
  refine and_congr_right fun member => ?_
  obtain ⟨usable, normal⟩ := sound.usable registration member
  constructor
  · rintro ⟨key, pressed, triggered⟩
    obtain ⟨value, side, named⟩ := pressedKey?_eq_some_iff.mp pressed
    rw [sound.held, Combination.triggeredBy_heldAfter_iff usable normal
      (canonicalKey_of_keyName? named)] at triggered
    exact ⟨value, side, triggered.1 ▸ named, triggered.2⟩
  · rintro ⟨value, side, named, held⟩
    refine ⟨_, pressedKey?_eq_some_iff.mpr ⟨value, side, named⟩, ?_⟩
    rw [sound.held, Combination.triggeredBy_heldAfter_iff usable normal
      (canonicalKey_of_keyName? named)]
    exact ⟨rfl, held⟩

/-- After any run, what reading an event fires: every registration of the table whose key the event
presses, with a key of each of its modifiers last heard being pressed, and nothing else. No hotkey is
fired twice. -/
theorem mem_read_event_iff (steps : List (Step β)) (index : Nat) (event : KeyEvent) :
    let course := Course.after steps
    let fired := (course.listener.read index (.event event)).1
    (∀ registration, registration ∈ fired ↔
      course.listener.isListening = true ∧ course.listener.reads index = true ∧
        registration ∈ course.listener.table ∧
        event.value = keyPress ∧ event.side? = none ∧
        keyName? event.code = some registration.combination.key ∧
        ∀ modifier ∈ registration.combination.modifiers, ∃ side ∈ sidesNamed modifier,
          LastPressed side course.heard) ∧
      (fired.map Registration.id).Nodup := by
  intro course fired
  have sound := Course.sound_after steps
  have events : fired = if course.listener.reads index then course.listener.fired event else [] :=
    read_event_fst ..
  by_cases reads : course.listener.reads index = true
  · rw [if_pos reads] at events
    rw [events]
    refine ⟨fun registration => ?_, ?_⟩
    · rw [sound.mem_fired_iff]
      simp only [isListening_of_reads reads, reads, true_and]
      rfl
    · exact sound.ids.sublist ((fired_sublist course.listener event).map Registration.id)
  · rw [if_neg reads] at events
    rw [events]
    refine ⟨fun registration => ?_, List.nodup_nil⟩
    simp [reads]

end Listener

end GlobalHotkeys
