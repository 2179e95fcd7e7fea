import GlobalHotkeys.Proofs.Listener.Firing

/-!
# Modifier keys on several keyboards

The listener keeps one flag for each modifier key. Every keyboard that has the key sets it and clears
it, and a keyboard that is no longer read leaves it as it is. So the flag tells of the keyboards
together: a press that no keyboard has taken back since. It tells of each of them only as long as no
keyboard is lost with the key down and none releases the key while another holds it.
-/

namespace GlobalHotkeys

variable {β : Type}

namespace Listener

structure Attributed (β : Type) where
  course : Course β := {}
  given : List (Nat × KeyEvent) := []

namespace Attributed

def givenAfter (attributed : Attributed β) : Step β → List (Nat × KeyEvent)
  | .register .. | .stop | .read _ (.failure _) => attributed.given
  | .start opened =>
    match attributed.course.listener.start opened with
    | .ok _ => []
    | .error _ => attributed.given
  | .read index (.event event) =>
    if attributed.course.listener.reads index then attributed.given ++ [(index, event)]
    else attributed.given

def step (attributed : Attributed β) (next : Step β) : Attributed β where
  course := attributed.course.step next
  given := attributed.givenAfter next

def after (steps : List (Step β)) : Attributed β :=
  steps.foldl step {}

theorem course_after (steps : List (Step β)) : (after steps).course = Course.after steps := by
  induction steps using List.reverseRecOn with
  | nil => rfl
  | append_singleton steps next ih =>
      rw [after, List.foldl_concat, Course.after, List.foldl_concat]
      exact congrArg (Course.step · next) ih

theorem heard_register (course : Course β) (hotkey : String) (binding : β) :
    (course.register hotkey binding).heard = course.heard := by
  unfold Course.register
  split
  · rfl
  · rfl

theorem heard_step {attributed : Attributed β} (next : Step β)
    (same : attributed.course.heard = attributed.given.map Prod.snd) :
    (attributed.course.step next).heard = (attributed.givenAfter next).map Prod.snd := by
  cases next with
  | register hotkey binding =>
      rw [Course.step, heard_register, same, givenAfter]
  | start opened =>
      cases started : attributed.course.listener.start opened with
      | ok listener => simp only [Course.step, Course.start, givenAfter, started, List.map_nil]
      | error cause => simpa only [Course.step, Course.start, givenAfter, started] using same
  | stop => exact same
  | read index reading =>
      cases reading with
      | failure reason => exact same
      | event event =>
          simp only [Course.step, Course.read, givenAfter]
          split_ifs with reads
          · rw [List.map_append, same, List.map_singleton]
          · exact same

theorem heard_after (steps : List (Step β)) :
    (after steps).course.heard = (after steps).given.map Prod.snd := by
  induction steps using List.reverseRecOn with
  | nil => rfl
  | append_singleton steps next ih =>
      rw [after, List.foldl_concat]
      exact heard_step next ih

end Attributed

/-- The keyboard has pressed the modifier key and not released it. -/
def HeldOn (index : Nat) (side : Side) (given : List (Nat × KeyEvent)) : Prop :=
  LastPressed side ((given.filter (·.1 == index)).map Prod.snd)

instance (index : Nat) (side : Side) (given : List (Nat × KeyEvent)) :
    Decidable (HeldOn index side given) :=
  inferInstanceAs (Decidable (LastPressed side _))

/-- The keyboard has pressed the modifier key, and no keyboard has released it since. -/
def UnreleasedFrom (index : Nat) (side : Side) (given : List (Nat × KeyEvent)) : Prop :=
  ∃ before later, given = before ++ (index, .press side.code) :: later ∧
    ∀ other ∈ later, other.2 ≠ .release side.code

/-- No keyboard has released the modifier key while another held it. -/
def ReleasedAlone (side : Side) (given : List (Nat × KeyEvent)) : Prop :=
  ∀ before index later, given = before ++ (index, .release side.code) :: later →
    ∀ other, HeldOn other side before → other = index

theorem heldOn_iff {index : Nat} {side : Side} {given : List (Nat × KeyEvent)} :
    HeldOn index side given ↔
      ∃ before later, given = before ++ (index, .press side.code) :: later ∧
        (index, .release side.code) ∉ later := by
  unfold HeldOn
  rw [lastPressed_iff]
  constructor
  · rintro ⟨before, later, split, unreleased⟩
    obtain ⟨_, rest, own, -, last⟩ := List.map_eq_append_iff.mp split
    obtain ⟨entry, later, rfl, pressed, rfl⟩ := List.map_eq_cons_iff.mp last
    obtain ⟨before, rest, rfl, -, own⟩ := List.filter_eq_append_iff.mp own
    obtain ⟨between, later, rfl, -, same, rfl⟩ := List.filter_eq_cons_iff.mp own
    obtain ⟨other, event⟩ := entry
    obtain rfl : other = index := beq_iff_eq.mp same
    obtain rfl : event = .press side.code := pressed
    refine ⟨before ++ between, later, by simp, fun released => unreleased ?_⟩
    exact List.mem_map.mpr ⟨_, List.mem_filter.mpr ⟨released, beq_self_eq_true _⟩, rfl⟩
  · rintro ⟨before, later, rfl, unreleased⟩
    refine ⟨(before.filter (·.1 == index)).map Prod.snd, (later.filter (·.1 == index)).map Prod.snd,
      by simp, fun released => unreleased ?_⟩
    obtain ⟨⟨other, event⟩, within, rfl⟩ := List.mem_map.mp released
    obtain ⟨given, same⟩ := List.mem_filter.mp within
    obtain rfl : other = index := beq_iff_eq.mp same
    exact given

theorem HeldOn.mem {index : Nat} {side : Side} {given : List (Nat × KeyEvent)}
    (held : HeldOn index side given) : (index, .press side.code) ∈ given := by
  obtain ⟨before, later, rfl, -⟩ := heldOn_iff.mp held
  exact List.mem_append_right _ List.mem_cons_self

theorem lastPressed_given_iff {side : Side} {given : List (Nat × KeyEvent)} :
    LastPressed side (given.map Prod.snd) ↔ ∃ index, UnreleasedFrom index side given := by
  rw [lastPressed_iff]
  constructor
  · rintro ⟨before, later, split, unreleased⟩
    obtain ⟨before, rest, rfl, -, last⟩ := List.map_eq_append_iff.mp split
    obtain ⟨⟨index, event⟩, later, rfl, pressed, rfl⟩ := List.map_eq_cons_iff.mp last
    obtain rfl : event = .press side.code := pressed
    exact ⟨index, before, later, rfl, fun other within released =>
      unreleased (released ▸ List.mem_map_of_mem within)⟩
  · rintro ⟨index, before, later, rfl, unreleased⟩
    refine ⟨before.map Prod.snd, later.map Prod.snd, by simp, fun released => ?_⟩
    obtain ⟨other, within, same⟩ := List.mem_map.mp released
    exact unreleased other within same

theorem UnreleasedFrom.heldOn {index : Nat} {side : Side} {given : List (Nat × KeyEvent)}
    (unreleased : UnreleasedFrom index side given) : HeldOn index side given := by
  obtain ⟨before, later, split, kept⟩ := unreleased
  exact heldOn_iff.mpr ⟨before, later, split, fun released => kept _ released rfl⟩

theorem HeldOn.unreleasedFrom {index : Nat} {side : Side} {given : List (Nat × KeyEvent)}
    (held : HeldOn index side given) (alone : ReleasedAlone side given) :
    UnreleasedFrom index side given := by
  obtain ⟨before, later, rfl, kept⟩ := heldOn_iff.mp held
  refine ⟨before, later, rfl, ?_⟩
  rintro ⟨other, event⟩ within rfl
  obtain ⟨between, rest, rfl⟩ := List.append_of_mem within
  -- When the other keyboard released the key, this one held it.
  have heldThen : HeldOn index side (before ++ (index, .press side.code) :: between) :=
    heldOn_iff.mpr ⟨before, between, rfl, fun released => kept (List.mem_append_left _ released)⟩
  obtain rfl := alone _ other rest (by simp) index heldThen
  exact kept within

/-- At any moment of any run: a modifier key counts as held if a keyboard that is still read has pressed
it and no keyboard has released it since, and only if some keyboard has pressed it and no keyboard has
released it since. As long as no keyboard was lost while it held the key, and none released it while
another held it, the key counts as held if and only if a keyboard that is still read has pressed it and
not released it. -/
theorem held_by_keyboards_together (steps : List (Step β)) (side : Side) :
    let now := Attributed.after steps
    let counts := now.course.listener.held.isDown side.name = true
    now.course = Course.after steps ∧
    (∀ index, now.course.listener.reads index = true → UnreleasedFrom index side now.given → counts) ∧
    (counts → ∃ index, UnreleasedFrom index side now.given) ∧
    ((∀ index, HeldOn index side now.given → now.course.listener.reads index = true) →
      ReleasedAlone side now.given →
      (counts ↔ ∃ index, now.course.listener.reads index = true ∧ HeldOn index side now.given)) := by
  intro now counts
  have course : now.course = Course.after steps := Attributed.course_after steps
  have told : counts ↔ ∃ index, UnreleasedFrom index side now.given := by
    have sound := Course.sound_after steps
    rw [← course] at sound
    show now.course.listener.held.isDown side.name = true ↔ _
    rw [sound.held, isDown_heldAfter_iff, Attributed.heard_after]
    exact lastPressed_given_iff
  refine ⟨course, fun index _ unreleased => told.mpr ⟨index, unreleased⟩, told.mp, fun unlost alone => ?_⟩
  rw [told]
  constructor
  · rintro ⟨index, unreleased⟩
    exact ⟨index, unlost index unreleased.heldOn, unreleased.heldOn⟩
  · rintro ⟨index, -, held⟩
    exact ⟨index, held.unreleasedFrom alone⟩

def twoKeyboards : List (Step Unit) :=
  [.register "ctrl+r" (), .start (.ok [⟨0, "first"⟩, ⟨1, "second"⟩])]

/-- The first keyboard fails after it has released the key, and the second one holds it. -/
theorem held_by_remaining_keyboard :
    let now := Attributed.after (twoKeyboards ++ [.read 0 (.event (.press 29)),
      .read 0 (.event (.release 29)), .read 1 (.event (.press 29)), .read 0 (.failure "unplugged")])
    (∀ index, HeldOn index .leftCtrl now.given → now.course.listener.reads index = true) ∧
    ReleasedAlone .leftCtrl now.given ∧
    now.course.listener.reads 1 = true ∧ HeldOn 1 .leftCtrl now.given ∧
    now.course.listener.held.isDown Side.leftCtrl.name = true := by
  intro now
  have given : now.given = [(0, .press 29), (0, .release 29), (1, .press 29)] := by decide +kernel
  have read : now.course.listener.reads 1 = true := by decide +kernel
  have holds : HeldOn 1 .leftCtrl now.given := by decide +kernel
  have unlost (index : Nat) (held : HeldOn index .leftCtrl now.given) :
      now.course.listener.reads index = true := by
    have pressed := held.mem
    rw [given] at pressed
    obtain rfl | rfl : index = 0 ∨ index = 1 := by
      simpa [Side.code, KeyEvent.press, KeyEvent.release, keyPress, keyRelease] using pressed
    · exact absurd held (by decide +kernel)
    · exact read
  have alone : ReleasedAlone .leftCtrl now.given := by
    rw [given]
    intro before index later split other held
    have press_ne_release : KeyEvent.press 29 ≠ .release 29 := by decide
    rcases before with _ | ⟨first, _ | ⟨second, _ | ⟨third, before⟩⟩⟩
    · simp [Side.code, press_ne_release] at split
    · obtain ⟨rfl, ⟨rfl, -⟩, -⟩ := by simpa using split
      exact congrArg Prod.fst (List.mem_singleton.mp held.mem)
    · simp [Side.code, press_ne_release] at split
    · simp at split
  obtain ⟨-, -, -, counts⟩ := held_by_keyboards_together (twoKeyboards ++ [.read 0 (.event (.press 29)),
    .read 0 (.event (.release 29)), .read 1 (.event (.press 29)), .read 0 (.failure "unplugged")]) .leftCtrl
  exact ⟨unlost, alone, read, holds, (counts unlost alone).mpr ⟨1, read, holds⟩⟩

/-- The key stays held when the only keyboard that holds it fails, and the hotkey fires on the other one.
And it is dropped when one of two keyboards that hold it releases it, and the hotkey does not fire. -/
theorem held_differs_from_keyboards :
    let lost := Attributed.after
      (twoKeyboards ++ [.read 0 (.event (.press 29)), .read 0 (.failure "unplugged")])
    let dropped := Attributed.after
      (twoKeyboards ++ [.read 0 (.event (.press 29)), .read 1 (.event (.press 29)),
        .read 1 (.event (.release 29))])
    (lost.course.listener.held.isDown Side.leftCtrl.name = true ∧
      (¬ ∃ index, lost.course.listener.reads index = true ∧ HeldOn index .leftCtrl lost.given) ∧
      (lost.course.listener.read 1 (.event (.press 19))).1.map Registration.id = ["ctrl+r"]) ∧
    dropped.course.listener.held.isDown Side.leftCtrl.name = false ∧
    (∃ index, dropped.course.listener.reads index = true ∧ HeldOn index .leftCtrl dropped.given) ∧
    (dropped.course.listener.read 1 (.event (.press 19))).1.map Registration.id = [] := by
  intro lost dropped
  have alone (index : Nat) (reads : lost.course.listener.reads index = true) : index = 1 := by
    have opened : lost.course.listener.openKeyboards = [⟨1, "second"⟩] := by decide +kernel
    rw [Listener.reads, opened, List.any_cons, List.any_nil, Bool.or_false] at reads
    exact (beq_iff_eq.mp reads).symm
  refine ⟨⟨by decide +kernel, ?_, by decide +kernel⟩, by decide +kernel, ⟨0, by decide +kernel⟩,
    by decide +kernel⟩
  rintro ⟨index, reads, held⟩
  rw [alone index reads] at held
  exact lastPressed_nil _ held

end Listener

end GlobalHotkeys
