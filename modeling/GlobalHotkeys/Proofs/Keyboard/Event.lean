import GlobalHotkeys.Keyboard.Event
import GlobalHotkeys.Proofs.Key.Table

namespace GlobalHotkeys

def KeyEvent.changes (side : Side) (event : KeyEvent) : Bool :=
  event == .press side.code || event == .release side.code

/-- Of the events that press or release the modifier key, the last is a press. -/
def LastPressed (side : Side) (events : List KeyEvent) : Prop :=
  (events.filter (KeyEvent.changes side)).getLast? = some (.press side.code)

instance (side : Side) (events : List KeyEvent) : Decidable (LastPressed side events) :=
  inferInstanceAs (Decidable (_ = _))

def heldAfter (events : List KeyEvent) : Held :=
  events.foldl Held.track {}

theorem heldAfter_append (events : List KeyEvent) (event : KeyEvent) :
    heldAfter (events ++ [event]) = (heldAfter events).track event :=
  List.foldl_concat ..

theorem changes_iff {side : Side} {event : KeyEvent} :
    event.changes side = true ↔
      event.side? = some side ∧ (event.value = keyPress ∨ event.value = keyRelease) := by
  obtain ⟨code, value⟩ := event
  simp only [KeyEvent.changes, KeyEvent.press, KeyEvent.release, KeyEvent.side?, Bool.or_eq_true,
    beq_iff_eq, KeyEvent.mk.injEq, Side.ofCode?_eq_some_iff, and_or_left]

theorem lastPressed_nil (side : Side) : ¬ LastPressed side [] := by
  simp [LastPressed]

theorem lastPressed_append_iff {side : Side} {events : List KeyEvent} {event : KeyEvent} :
    LastPressed side (events ++ [event]) ↔
      if event.changes side then event = .press side.code else LastPressed side events := by
  unfold LastPressed
  rw [List.filter_append]
  by_cases changing : event.changes side = true
  · rw [List.filter_cons_of_pos changing, if_pos changing, List.filter_nil, List.getLast?_concat,
      Option.some.injEq]
  · rw [List.filter_cons_of_neg changing, if_neg changing, List.filter_nil, List.append_nil]

theorem lastPressed_iff {side : Side} {events : List KeyEvent} :
    LastPressed side events ↔
      ∃ before later, events = before ++ .press side.code :: later ∧
        .release side.code ∉ later := by
  constructor
  · intro pressed
    obtain ⟨earlier, split⟩ := List.getLast?_eq_some_iff.mp pressed
    obtain ⟨before, rest, rfl, -, last⟩ := List.filter_eq_append_iff.mp split
    obtain ⟨between, later, rfl, -, -, unchanged⟩ := List.filter_eq_cons_iff.mp last
    refine ⟨before ++ between, later, by simp, fun released => ?_⟩
    have changes := List.filter_eq_nil_iff.mp unchanged _ released
    exact changes (by simp [KeyEvent.changes])
  · rintro ⟨before, later, rfl, unreleased⟩
    induction later using List.reverseRecOn with
    | nil =>
        rw [lastPressed_append_iff, if_pos (by simp [KeyEvent.changes])]
    | append_singleton later event ih =>
        rw [List.mem_append, not_or, List.mem_singleton] at unreleased
        rw [← List.cons_append, ← List.append_assoc, lastPressed_append_iff]
        split_ifs with changes
        · simpa [KeyEvent.changes, Ne.symm unreleased.2] using changes
        · exact ih unreleased.1

theorem Held.isDown_track (held : Held) (event : KeyEvent) (side : Side) :
    (held.track event).isDown side.name = true ↔
      if event.changes side then event = .press side.code else held.isDown side.name = true := by
  obtain ⟨code, value⟩ := event
  unfold Held.track
  cases found : KeyEvent.side? ⟨code, value⟩ with
  | none =>
      have unchanged : ¬ KeyEvent.changes side ⟨code, value⟩ = true := by
        rw [changes_iff, found]
        simp
      rw [if_neg unchanged]
  | some other =>
      obtain rfl := Side.code_of_ofCode? found
      by_cases same : side = other
      · subst same
        have differ : keyRelease ≠ keyPress := by decide
        by_cases pressed : value = keyPress
        · simp [KeyEvent.changes, KeyEvent.press, pressed]
        by_cases released : value = keyRelease
        · simp [KeyEvent.changes, KeyEvent.press, KeyEvent.release, released, differ]
        · simp [KeyEvent.changes, KeyEvent.press, KeyEvent.release, pressed, released]
      · have unchanged : ¬ KeyEvent.changes side ⟨other.code, value⟩ = true := by
          rw [changes_iff, found, Option.some.injEq]
          exact fun changed => same changed.1.symm
        have differ : side.name ≠ other.name := fun names => same (Side.name_injective names)
        rw [if_neg unchanged]
        split_ifs <;> simp [differ]

theorem Held.Sided.track {held : Held} (sided : held.Sided) (event : KeyEvent) :
    (held.track event).Sided := by
  unfold Held.track
  cases event.side? with
  | none => exact sided
  | some side =>
      intro name down
      split_ifs at down
      · rw [isDown_press, Bool.or_eq_true, beq_iff_eq] at down
        exact down.elim (fun same => ⟨side, same.symm⟩) (sided name)
      · rw [isDown_release, Bool.and_eq_true] at down
        exact sided name down.1
      · exact sided name down

theorem sided_heldAfter (events : List KeyEvent) : (heldAfter events).Sided := by
  induction events using List.reverseRecOn with
  | nil => exact Held.sided_empty
  | append_singleton events event ih =>
      rw [heldAfter_append]
      exact ih.track event

theorem isDown_heldAfter_iff (events : List KeyEvent) (side : Side) :
    (heldAfter events).isDown side.name = true ↔ LastPressed side events := by
  induction events using List.reverseRecOn with
  | nil => exact iff_of_false (by simp [heldAfter, Held.isDown]) (lastPressed_nil side)
  | append_singleton events event ih =>
      rw [heldAfter_append, Held.isDown_track, lastPressed_append_iff]
      split_ifs
      · rfl
      · exact ih

theorem holds_heldAfter_iff (events : List KeyEvent) (modifier : String) :
    (heldAfter events).holds modifier = true ↔
      ∃ side ∈ sidesNamed modifier, LastPressed side events := by
  rw [Held.holds_iff (sided_heldAfter events)]
  simp only [isDown_heldAfter_iff]

theorem lastPressed_all (side : Side) :
    LastPressed side (Side.all.map fun other => KeyEvent.press other.code) := by
  cases side <;> decide

end GlobalHotkeys
