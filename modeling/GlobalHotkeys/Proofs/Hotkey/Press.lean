import GlobalHotkeys.Proofs.Hotkey.Combination

namespace GlobalHotkeys

open Text

/-- The key goes by a name that can stand in a hotkey and that is the one name of the key, but for the
case of ASCII letters. -/
structure SelfNamed (key : String) : Prop where
  nonempty : key ≠ ""
  clean : '+' ∉ key.toList
  canonical : sameUpToAsciiCase (canonicalKey key) key = true

namespace Held

def EitherDown (held : Held) (left right : Side) : Prop :=
  held.isDown left.name = true ∨ held.isDown right.name = true

/-- In `other` everything is down that a press with `held` asks for. Only the right Alt asks for itself. -/
structure Covers (other held : Held) : Prop where
  ctrl : held.EitherDown .leftCtrl .rightCtrl → other.EitherDown .leftCtrl .rightCtrl
  leftAlt : held.isDown Side.leftAlt.name = true → other.EitherDown .leftAlt .rightAlt
  rightAlt : held.isDown Side.rightAlt.name = true → other.isDown Side.rightAlt.name = true
  shift : held.EitherDown .leftShift .rightShift → other.EitherDown .leftShift .rightShift
  metas : held.EitherDown .leftMeta .rightMeta → other.EitherDown .leftMeta .rightMeta

theorem Covers.refl (held : Held) : held.Covers held :=
  ⟨id, .inl, id, id, id⟩

theorem holds_iff_eitherDown {held : Held} {modifier : String} {left right : Side}
    (generic : genericSides modifier = some [left, right]) :
    held.holds modifier = true ↔ held.EitherDown left right := by
  simp [holds, generic, EitherDown]

theorem holds_altgr_iff (held : Held) :
    held.holds "altgr" = true ↔ held.isDown Side.rightAlt.name = true := by
  simp [holds, genericSides]

end Held

theorem heldModifiers_hold_iff {held other : Held} :
    (∀ modifier ∈ heldModifiers held, other.holds modifier = true) ↔ other.Covers held := by
  have named (down : Prop) [Decidable down] (name : String) :
      (∀ modifier ∈ (if down then [name] else []), other.holds modifier = true) ↔
        (down → other.holds name = true) := by
    by_cases holds : down <;> simp [holds]
  simp only [heldModifiers, List.forall_mem_append, named, Bool.or_eq_true,
    Held.holds_iff_eitherDown (show genericSides "ctrl" = _ from rfl),
    Held.holds_iff_eitherDown (show genericSides "alt" = _ from rfl), Held.holds_altgr_iff,
    Held.holds_iff_eitherDown (show genericSides "shift" = _ from rfl),
    Held.holds_iff_eitherDown (show genericSides "super" = _ from rfl)]
  constructor
  · rintro ⟨⟨⟨⟨ctrl, leftAlt⟩, rightAlt⟩, shift⟩, metas⟩
    exact ⟨ctrl, leftAlt, rightAlt, shift, metas⟩
  · rintro ⟨ctrl, leftAlt, rightAlt, shift, metas⟩
    exact ⟨⟨⟨⟨ctrl, leftAlt⟩, rightAlt⟩, shift⟩, metas⟩

theorem heldModifiers_hold {held : Held} {modifier : String} (member : modifier ∈ heldModifiers held) :
    held.holds modifier = true :=
  heldModifiers_hold_iff.mpr (.refl held) modifier member

namespace Combination

theorem clean_of_triggeredBy {hotkey key : String} {held : Held}
    (triggered : (parse hotkey).triggeredBy key held = true) : '+' ∉ key.toList := by
  simp only [triggeredBy, Bool.and_eq_true] at triggered
  rw [← plus_mem_iff_of_same triggered.1.2]
  exact (parse_normal hotkey).key.1

theorem triggeredBy_combinationText_iff {key : String} {held other : Held} :
    (parse (combinationText key held)).triggeredBy key other = true ↔
      SelfNamed key ∧ other.Covers held := by
  by_cases clean : '+' ∈ key.toList
  -- A `+` in the name of the key separates two names of the hotkey, so neither of them is the key.
  · exact iff_of_false (fun triggered => clean_of_triggeredBy triggered clean)
      fun both => both.1.clean clean
  · simp only [parse_combinationText_of_clean held clean, triggeredBy, Bool.and_eq_true, bne_iff_ne,
      List.all_eq_true, heldModifiers_hold_iff]
    constructor
    · rintro ⟨⟨nonempty, same⟩, covers⟩
      exact ⟨⟨mt (eq_empty_iff_of_same same).mpr nonempty, clean, same⟩, covers⟩
    · rintro ⟨⟨nonempty, -, same⟩, covers⟩
      exact ⟨⟨mt (eq_empty_iff_of_same same).mp nonempty, same⟩, covers⟩

/-- The hotkey of a press recognizes the press if and only if the key goes by its one name. It then
recognizes the key under exactly those held keys that cover the ones of the press. -/
theorem press_recognized (key : String) (held : Held) :
    let combination := parse (combinationText key held)
    (combination.triggeredBy key held = true ↔ SelfNamed key) ∧
      (SelfNamed key → ∀ other, combination.triggeredBy key other = true ↔ other.Covers held) := by
  intro combination
  constructor
  · rw [triggeredBy_combinationText_iff]
    exact and_iff_left (.refl held)
  · intro named other
    rw [triggeredBy_combinationText_iff]
    exact and_iff_right named

end Combination

end GlobalHotkeys
