import Mathlib.Data.List.Pairwise
import Mathlib.Data.List.Perm.Basic
import GlobalHotkeys.Proofs.Listener.Reachable

namespace GlobalHotkeys

variable {β : Type}

def Implies (modifier other : String) : Prop :=
  ∀ side ∈ sidesNamed modifier, side ∈ sidesNamed other

instance (modifier other : String) : Decidable (Implies modifier other) :=
  inferInstanceAs (Decidable (∀ side ∈ sidesNamed modifier, side ∈ sidesNamed other))

/-- No two of these names of modifiers mean the same keys. -/
def Unambiguous (names : List String) : Prop :=
  names.Pairwise fun name other => ¬ (Implies name other ∧ Implies other name)

theorem Implies.refl (modifier : String) : Implies modifier modifier :=
  fun _ named => named

theorem Implies.trans {modifier middle other : String} (first : Implies modifier middle)
    (second : Implies middle other) : Implies modifier other :=
  fun side named => second side (first side named)

theorem Unambiguous.nodup {names : List String} (clear : Unambiguous names) : names.Nodup := by
  refine List.Pairwise.imp (fun differ same => ?_) clear
  exact differ (same ▸ ⟨.refl _, .refl _⟩)

theorem Unambiguous.eq {names : List String} (clear : Unambiguous names) {name other : String}
    (member : name ∈ names) (second : other ∈ names) (there : Implies name other)
    (back : Implies other name) : name = other := by
  have : Std.Symm fun name other => ¬ (Implies name other ∧ Implies other name) :=
    ⟨fun _ _ apart both => apart both.symm⟩
  by_contra differ
  exact List.Pairwise.forall clear member second differ ⟨there, back⟩

theorem Held.holds_modifier_iff {modifier : String} (canonical : canonicalKey modifier = modifier)
    (isOne : isModifier modifier = true) (held : Held) :
    held.holds modifier = true ↔ ∃ side ∈ sidesNamed modifier, held.isDown side.name = true := by
  obtain ⟨side, named⟩ := (isModifier_iff canonical).mp isOne
  unfold Held.holds
  cases generic : genericSides modifier with
  | some sides => simp [sidesNamed, generic]
  | none =>
      simp only [sidesNamed, generic, Option.getD_none, List.mem_filter, beq_iff_eq] at named ⊢
      constructor
      · exact fun down => ⟨side, named, named.2 ▸ down⟩
      · rintro ⟨other, ⟨-, rfl⟩, down⟩
        exact down

def Held.only (sides : List Side) : Held :=
  ⟨sides.map Side.name⟩

theorem Held.isDown_only_iff {sides : List Side} {side : Side} :
    (Held.only sides).isDown side.name = true ↔ side ∈ sides := by
  rw [isDown, only, List.contains_iff_mem]
  exact List.mem_map_of_injective fun _ _ => Side.name_injective

namespace Combination

/-- The combinations are triggered by the same keys with the same keys held. -/
def SamePresses (first second : Combination) : Prop :=
  ∀ key held, first.triggeredBy key held = second.triggeredBy key held

def Entails (first second : Combination) : Prop :=
  ∀ modifier ∈ second.modifiers, ∃ stronger ∈ first.modifiers, Implies stronger modifier

instance (first second : Combination) : Decidable (first.Entails second) :=
  inferInstanceAs
    (Decidable (∀ modifier ∈ second.modifiers, ∃ stronger ∈ first.modifiers, Implies stronger modifier))

section Meaning

variable {first second : Combination}

theorem Usable.holds_iff (usable : first.Usable) (normal : first.Normal) {modifier : String}
    (member : modifier ∈ first.modifiers) (held : Held) :
    held.holds modifier = true ↔ ∃ side ∈ sidesNamed modifier, held.isDown side.name = true :=
  Held.holds_modifier_iff (normal.modifiers modifier member).2 (usable.modifiers modifier member) held

theorem triggeredBy_key_iff (usable : first.Usable) (normal : first.Normal) (held : Held) :
    first.triggeredBy first.key held = true ↔
      ∀ modifier ∈ first.modifiers, held.holds modifier = true := by
  rw [triggeredBy_iff normal.key normal.key.2]
  simp [usable.nonempty]

theorem triggeredBy_of_entails (usableFirst : first.Usable) (normalFirst : first.Normal)
    (usableSecond : second.Usable) (normalSecond : second.Normal) (key : first.key = second.key)
    (entails : first.Entails second) {pressed : String} {held : Held}
    (triggered : first.triggeredBy pressed held = true) :
    second.triggeredBy pressed held = true := by
  simp only [triggeredBy, Bool.and_eq_true, List.all_eq_true, key] at triggered ⊢
  refine ⟨triggered.1, fun modifier member => ?_⟩
  obtain ⟨stronger, inFirst, implied⟩ := entails modifier member
  obtain ⟨side, named, down⟩ :=
    (usableFirst.holds_iff normalFirst inFirst held).mp (triggered.2 stronger inFirst)
  exact (usableSecond.holds_iff normalSecond member held).mpr ⟨side, implied side named, down⟩

theorem triggeredBy_all (usable : first.Usable) (normal : first.Normal) :
    first.triggeredBy first.key (.only Side.all) = true := by
  rw [triggeredBy_key_iff usable normal]
  intro modifier member
  obtain ⟨side, named⟩ := (isModifier_iff (normal.modifiers modifier member).2).mp
    (usable.modifiers modifier member)
  exact (usable.holds_iff normal member _).mpr
    ⟨side, named, Held.isDown_only_iff.mpr side.mem_all⟩

theorem SamePresses.key (usable : first.Usable) (normalFirst : first.Normal)
    (normalSecond : second.Normal) (same : first.SamePresses second) : first.key = second.key := by
  have triggered := same first.key (.only Side.all) ▸ triggeredBy_all usable normalFirst
  exact ((triggeredBy_iff normalSecond.key normalFirst.key.2).mp triggered).2.1.symm

theorem SamePresses.entails (usableFirst : first.Usable) (normalFirst : first.Normal)
    (usableSecond : second.Usable) (normalSecond : second.Normal)
    (same : first.SamePresses second) : first.Entails second := by
  intro modifier member
  have key := same.key usableFirst normalFirst normalSecond
  -- With every key held but those of this modifier, the second combination is not triggered, so a
  -- modifier of the first is not held either: it stands for no key besides.
  let held := Held.only (Side.all.filter (· ∉ sidesNamed modifier))
  have down (side : Side) : held.isDown side.name = true ↔ side ∉ sidesNamed modifier := by
    rw [Held.isDown_only_iff, List.mem_filter, decide_eq_true_iff]
    exact and_iff_right side.mem_all
  have missing : ¬ second.triggeredBy second.key held = true := by
    rw [triggeredBy_key_iff usableSecond normalSecond]
    intro all
    obtain ⟨side, named, up⟩ :=
      (usableSecond.holds_iff normalSecond member held).mp (all modifier member)
    exact (down side).mp up named
  rw [← same, ← key, triggeredBy_key_iff usableFirst normalFirst] at missing
  push Not at missing
  obtain ⟨stronger, inFirst, up⟩ := missing
  refine ⟨stronger, inFirst, fun side named => ?_⟩
  by_contra foreign
  exact up ((usableFirst.holds_iff normalFirst inFirst held).mpr ⟨side, named, (down side).mpr foreign⟩)

theorem samePresses_iff (usableFirst : first.Usable) (normalFirst : first.Normal)
    (usableSecond : second.Usable) (normalSecond : second.Normal) :
    first.SamePresses second ↔
      first.key = second.key ∧ first.Entails second ∧ second.Entails first := by
  constructor
  · intro same
    have back : second.SamePresses first := fun key held => (same key held).symm
    exact ⟨same.key usableFirst normalFirst normalSecond,
      same.entails usableFirst normalFirst usableSecond normalSecond,
      back.entails usableSecond normalSecond usableFirst normalFirst⟩
  · rintro ⟨key, there, back⟩ pressed held
    rw [Bool.eq_iff_iff]
    constructor
    · exact triggeredBy_of_entails usableFirst normalFirst usableSecond normalSecond key there
    · exact triggeredBy_of_entails usableSecond normalSecond usableFirst normalFirst key.symm back

end Meaning

/-- The modifiers stand in the order of these names, and none is implied by another. -/
structure WrittenIn (style : List String) (combination : Combination) : Prop where
  ordered : combination.modifiers.Sublist style
  concise : ∀ modifier ∈ combination.modifiers, ∀ other ∈ combination.modifiers,
    Implies modifier other → modifier = other

theorem WrittenIn.subset {style : List String} {first second : Combination} (clear : Unambiguous style)
    (writtenFirst : first.WrittenIn style) (writtenSecond : second.WrittenIn style)
    (there : first.Entails second) (back : second.Entails first) :
    first.modifiers ⊆ second.modifiers := by
  intro modifier member
  obtain ⟨middle, inSecond, implied⟩ := back modifier member
  obtain ⟨strongest, inFirst, implies⟩ := there middle inSecond
  obtain rfl := writtenFirst.concise strongest inFirst modifier member (implies.trans implied)
  have same := clear.eq (writtenFirst.ordered.subset member) (writtenSecond.ordered.subset inSecond)
    implies implied
  exact same ▸ inSecond

theorem WrittenIn.eq_of_samePresses {style : List String} {first second : Combination}
    (clear : Unambiguous style) (writtenFirst : first.WrittenIn style)
    (writtenSecond : second.WrittenIn style) (usableFirst : first.Usable) (normalFirst : first.Normal)
    (usableSecond : second.Usable) (normalSecond : second.Normal)
    (same : first.SamePresses second) : first = second := by
  obtain ⟨key, there, back⟩ :=
    (samePresses_iff usableFirst normalFirst usableSecond normalSecond).mp same
  have perm : first.modifiers.Perm second.modifiers := by
    refine (List.perm_ext_iff_of_nodup normalFirst.distinct normalSecond.distinct).mpr fun modifier => ?_
    exact ⟨fun member => writtenFirst.subset clear writtenSecond there back member,
      fun member => writtenSecond.subset clear writtenFirst back there member⟩
  have modifiers : first.modifiers = second.modifiers :=
    (List.Nodup.perm_iff_eq_of_sublist clear.nodup writtenFirst.ordered writtenSecond.ordered).mp perm
  cases first
  cases second
  simp_all

end Combination

namespace Listener

namespace Course

theorem mem_ids_register {course : Course β} {id : String} (member : id ∈ course.listener.ids)
    (hotkey : String) (binding : β) : id ∈ (course.register hotkey binding).listener.ids := by
  unfold Course.register
  cases registered : course.listener.register hotkey binding with
  | error cause => exact member
  | ok listener =>
      obtain ⟨-, -, rfl⟩ := register_eq_ok_iff.mp registered
      rw [Listener.ids, List.map_append]
      exact List.mem_append_left _ member

theorem mem_ids_start {course : Course β} {id : String} (member : id ∈ course.listener.ids)
    (opened : Except HotkeyError (List Keyboard)) : id ∈ (course.start opened).listener.ids := by
  unfold Course.start
  cases started : course.listener.start opened with
  | error cause => exact member
  | ok listener =>
      obtain ⟨-, keyboards, -, -, rfl⟩ := start_eq_ok_iff.mp started
      exact member

theorem mem_ids_read {course : Course β} {id : String} (member : id ∈ course.listener.ids)
    (index : Nat) (reading : Reading) : id ∈ (course.read index reading).listener.ids := by
  unfold Course.read Listener.read
  split_ifs
  · cases reading <;> exact member
  · exact member

theorem mem_ids_step {course : Course β} {id : String} (member : id ∈ course.listener.ids)
    (next : Step β) : id ∈ (course.step next).listener.ids := by
  cases next with
  | register hotkey binding => exact mem_ids_register member hotkey binding
  | start opened => exact mem_ids_start member opened
  | stop => exact member
  | read index reading => exact mem_ids_read member index reading

theorem mem_ids_run {course : Course β} {id : String} (member : id ∈ course.listener.ids)
    (later : List (Step β)) : id ∈ (later.foldl step course).listener.ids := by
  induction later generalizing course with
  | nil => exact member
  | cons next rest ih => exact ih (mem_ids_step member next)

theorem normalizeHotkey_mem_ids_register (course : Course β) {hotkey : String} (binding : β)
    (usable : (Combination.parse hotkey).Usable) :
    normalizeHotkey hotkey ∈ (course.register hotkey binding).listener.ids := by
  by_cases taken : normalizeHotkey hotkey ∈ course.listener.ids
  · exact mem_ids_register taken hotkey binding
  · obtain ⟨listener, registered⟩ :
        ∃ listener, course.listener.register hotkey binding = .ok listener :=
      ⟨_, register_eq_ok_iff.mpr ⟨usable, taken, rfl⟩⟩
    unfold Course.register
    rw [registered]
    obtain ⟨-, -, rfl⟩ := register_eq_ok_iff.mp registered
    simp [Listener.ids, Registration.id, normalizeHotkey]

theorem normalizeHotkey_mem_ids {hotkey : String} (binding : β)
    (usable : (Combination.parse hotkey).Usable) (steps later : List (Step β)) :
    normalizeHotkey hotkey ∈
      (after (steps ++ .register hotkey binding :: later)).listener.ids := by
  have registered := normalizeHotkey_mem_ids_register (after steps) binding usable
  have kept := mem_ids_run registered later
  unfold after at kept ⊢
  rw [List.foldl_append, List.foldl_cons]
  exact kept

theorem Sound.fired_pairwise {course : Course β} (sound : course.Sound) (index : Nat)
    (event : KeyEvent) {style : List String} (clear : Unambiguous style) :
    (course.listener.read index (.event event)).1.Pairwise fun first second =>
      first.combination.WrittenIn style → second.combination.WrittenIn style →
        ¬ first.combination.SamePresses second.combination := by
  have table : course.listener.table.Pairwise fun first second =>
      first.combination.WrittenIn style → second.combination.WrittenIn style →
        ¬ first.combination.SamePresses second.combination := by
    refine (List.pairwise_map.mp sound.ids).imp_of_mem ?_
    intro first second member other differ writtenFirst writtenSecond same
    obtain ⟨usableFirst, normalFirst⟩ := sound.usable first member
    obtain ⟨usableSecond, normalSecond⟩ := sound.usable second other
    exact differ (congrArg Combination.text (writtenFirst.eq_of_samePresses clear writtenSecond
      usableFirst normalFirst usableSecond normalSecond same))
  rw [read_event_fst]
  split_ifs
  · exact table.sublist (fired_sublist course.listener event)
  · exact List.Pairwise.nil

end Course

/-- Hotkeys that a listener takes match the same presses if and only if they have one key and every
modifier of each is implied by one of the other. If they are written in one style besides, they have one
normal form, and once the first was registered the second is rejected. No event fires two registrations of
one style that match the same presses. -/
theorem same_presses_in_style (first second : String) (binding : β)
    (takesFirst : ∃ listener, ({} : Listener β).register first binding = .ok listener)
    (takesSecond : ∃ listener, ({} : Listener β).register second binding = .ok listener) :
    ((Combination.parse first).SamePresses (.parse second) ↔
      (Combination.parse first).key = (Combination.parse second).key ∧
        (Combination.parse first).Entails (.parse second) ∧
        (Combination.parse second).Entails (.parse first)) ∧
    ∀ style, Unambiguous style →
      ((Combination.parse first).WrittenIn style → (Combination.parse second).WrittenIn style →
        (Combination.parse first).SamePresses (.parse second) →
        normalizeHotkey first = normalizeHotkey second ∧
        ∀ (steps later : List (Step β)) (other : β),
          (Course.after (steps ++ .register first binding :: later)).listener.register second other =
            .error (.alreadyRegistered (normalizeHotkey second))) ∧
      ∀ (steps : List (Step β)) (index : Nat) (event : KeyEvent),
        ((Course.after steps).listener.read index (.event event)).1.Pairwise fun one other =>
          one.combination.WrittenIn style → other.combination.WrittenIn style →
            ¬ one.combination.SamePresses other.combination := by
  have usableFirst := accepted_iff_usable.mp takesFirst
  have usableSecond := accepted_iff_usable.mp takesSecond
  have normalFirst := Combination.parse_normal first
  have normalSecond := Combination.parse_normal second
  refine ⟨Combination.samePresses_iff usableFirst normalFirst usableSecond normalSecond,
    fun style clear => ⟨fun writtenFirst writtenSecond same => ?_, fun steps index event => ?_⟩⟩
  · have equal := writtenFirst.eq_of_samePresses clear writtenSecond usableFirst normalFirst
      usableSecond normalSecond same
    have text : normalizeHotkey first = normalizeHotkey second := congrArg Combination.text equal
    refine ⟨text, fun steps later other => register_taken other usableSecond ?_⟩
    exact text ▸ Course.normalizeHotkey_mem_ids binding usableFirst steps later
  · exact (Course.sound_after steps).fired_pairwise index event clear

/-- The style of captured hotkeys, with two spellings of one hotkey in it. -/
theorem spellings_in_captured_style :
    let style := ["ctrl", "alt", "altgr", "shift", "super"]
    let first := " Ctrl + SHIFT + Esc"
    let second := "ctrl++ctrl+shift+escape"
    let steps : List (Step String) := [.stop, .register first "record", .start (.error .noKeyboard)]
    (∃ listener, ({} : Listener String).register first "record" = .ok listener) ∧
    (∃ listener, ({} : Listener String).register second "record" = .ok listener) ∧
    Unambiguous style ∧
    (Combination.parse first).WrittenIn style ∧ (Combination.parse second).WrittenIn style ∧
    (Combination.parse first).SamePresses (.parse second) ∧
    (Course.after steps).listener.register second "cancel" =
      .error (.alreadyRegistered "ctrl+shift+escape") := by
  intro style first second steps
  have readFirst : Combination.parse first = ⟨["ctrl", "shift"], "escape"⟩ := by decide +kernel
  have readSecond : Combination.parse second = ⟨["ctrl", "shift"], "escape"⟩ := by decide +kernel
  have usable : Combination.Usable ⟨["ctrl", "shift"], "escape"⟩ :=
    ⟨by decide, by decide +kernel, by decide +kernel, by decide +kernel⟩
  have written : Combination.WrittenIn style ⟨["ctrl", "shift"], "escape"⟩ :=
    ⟨by decide +kernel, by decide +kernel⟩
  have clear : Unambiguous style := by
    unfold Unambiguous
    decide +kernel
  have takesFirst : ∃ listener, ({} : Listener String).register first "record" = .ok listener :=
    accepted_iff_usable.mpr (readFirst ▸ usable)
  have takesSecond : ∃ listener, ({} : Listener String).register second "record" = .ok listener :=
    accepted_iff_usable.mpr (readSecond ▸ usable)
  obtain ⟨meaning, styled⟩ := same_presses_in_style first second "record" takesFirst takesSecond
  have same : (Combination.parse first).SamePresses (.parse second) := by
    rw [meaning, readFirst, readSecond]
    decide +kernel
  obtain ⟨text, rejected⟩ :=
    (styled style clear).1 (readFirst ▸ written) (readSecond ▸ written) same
  have normal : normalizeHotkey second = "ctrl+shift+escape" := by
    rw [normalizeHotkey, readSecond]
    rfl
  exact ⟨takesFirst, takesSecond, clear, readFirst ▸ written, readSecond ▸ written, same,
    normal ▸ rejected [.stop] [.start (.error .noKeyboard)] "cancel"⟩

def Collide (first second : String) : Prop :=
  (∃ listener, ({} : Listener String).register first "record" = .ok listener) ∧
    (∃ listener, ({} : Listener String).register second "record" = .ok listener) ∧
    (Combination.parse first).SamePresses (.parse second) ∧
    normalizeHotkey first ≠ normalizeHotkey second

theorem collide_of_parse {first second : String} {one other : Combination}
    (readFirst : Combination.parse first = one) (readSecond : Combination.parse second = other)
    (usableOne : one.Usable) (usableOther : other.Usable)
    (same : one.key = other.key ∧ one.Entails other ∧ other.Entails one)
    (differ : one.text ≠ other.text) : Collide first second := by
  subst one other
  exact ⟨accepted_iff_usable.mpr usableOne, accepted_iff_usable.mpr usableOther,
    (Combination.samePresses_iff usableOne (Combination.parse_normal first) usableOther
      (Combination.parse_normal second)).mpr same, differ⟩

/-- Another order of the modifiers, and a modifier that another one implies, make another hotkey for the
same presses. The listener takes both of them, and one press fires both. -/
theorem one_press_fires_two :
    Collide "ctrl+shift+r" "shift+ctrl+r" ∧ Collide "leftctrl+r" "ctrl+leftctrl+r" ∧
    let steps : List (Step String) :=
      [.register "ctrl+shift+r" "record", .register "shift+ctrl+r" "cancel",
        .start (.ok [⟨0, "kbd0"⟩]), .read 0 (.event (.press 29)), .read 0 (.event (.press 42))]
    ((Course.after steps).listener.read 0 (.event (.press 19))).1.map Registration.binding =
      ["record", "cancel"] := by
  have usable {modifiers : List String}
      (among : ∀ modifier ∈ modifiers, modifier ∈ ["ctrl", "shift", "leftctrl"]) :
      Combination.Usable ⟨modifiers, "r"⟩ := by
    have names : ∀ name ∈ ["ctrl", "shift", "leftctrl"], isModifier name = true := by decide +kernel
    have coded : (keyCode? "r").isSome = true := by decide +kernel
    have main : isModifier "r" = false := by decide +kernel
    have nonempty : "r" ≠ "" := by decide
    exact ⟨nonempty, coded, main, fun modifier member => names modifier (among modifier member)⟩
  refine ⟨?_, ?_, by decide +kernel⟩
  · have readFirst : Combination.parse "ctrl+shift+r" = ⟨["ctrl", "shift"], "r"⟩ := by decide +kernel
    have readSecond : Combination.parse "shift+ctrl+r" = ⟨["shift", "ctrl"], "r"⟩ := by decide +kernel
    exact collide_of_parse readFirst readSecond (usable (by simp)) (usable (by simp))
      (by decide +kernel) (by decide)
  · have readFirst : Combination.parse "leftctrl+r" = ⟨["leftctrl"], "r"⟩ := by decide +kernel
    have readSecond : Combination.parse "ctrl+leftctrl+r" = ⟨["ctrl", "leftctrl"], "r"⟩ := by
      decide +kernel
    exact collide_of_parse readFirst readSecond (usable (by simp)) (usable (by simp))
      (by decide +kernel) (by decide)

end Listener

end GlobalHotkeys
