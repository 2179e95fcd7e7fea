import GlobalHotkeys.Capture.Validity
import GlobalHotkeys.Proofs.Hotkey.Combination

namespace GlobalHotkeys

open Text

def Held.Free (held : Held) : Prop :=
  ∀ modifier, held.holds modifier = false

theorem Held.free_empty : ({} : Held).Free := by
  intro modifier
  unfold holds
  cases genericSides modifier <;> simp [isDown]

theorem isTypingKey_of_same {name other : String} (canonical : canonicalKey name = name)
    (same : sameUpToAsciiCase name other = true) : isTypingKey other = isTypingKey name := by
  rw [isTypingKey, canonicalKey_of_same canonical same, isTypingKey, canonical]

namespace Combination

/-- Typing this key, with no modifier held, triggers the combination. -/
def Swallows (combination : Combination) (key : String) : Prop :=
  isTypingKey key = true ∧ ∃ held : Held, held.Free ∧ combination.triggeredBy key held = true

theorem triggeredBy_iff_of_free {combination : Combination} {key : String} {held : Held}
    (free : held.Free) :
    combination.triggeredBy key held = true ↔
      combination.key ≠ "" ∧ sameUpToAsciiCase combination.key key = true ∧
        combination.isBare = true := by
  have bare : combination.modifiers.all held.holds = combination.isBare := by
    unfold isBare
    cases combination.modifiers with
    | nil => rfl
    | cons modifier rest => simp [free modifier]
  simp only [triggeredBy, bare, Bool.and_eq_true, bne_iff_ne, and_assoc]

theorem swallows_iff {combination : Combination} {key : String}
    (canonical : canonicalKey combination.key = combination.key) :
    combination.Swallows key ↔
      combination.key ≠ "" ∧ sameUpToAsciiCase combination.key key = true ∧
        combination.isBare = true ∧ isTypingKey combination.key = true := by
  constructor
  · rintro ⟨typing, held, free, triggered⟩
    obtain ⟨nonempty, same, bare⟩ := (triggeredBy_iff_of_free free).mp triggered
    exact ⟨nonempty, same, bare, isTypingKey_of_same canonical same ▸ typing⟩
  · rintro ⟨nonempty, same, bare, typing⟩
    refine ⟨(isTypingKey_of_same canonical same).trans typing, {}, Held.free_empty, ?_⟩
    exact (triggeredBy_iff_of_free Held.free_empty).mpr ⟨nonempty, same, bare⟩

theorem swallows_own_iff {combination : Combination}
    (canonical : canonicalKey combination.key = combination.key) (nonempty : combination.key ≠ "") :
    combination.Swallows combination.key ↔
      combination.isBare = true ∧ isTypingKey combination.key = true := by
  rw [swallows_iff canonical]
  simp [nonempty, sameUpToAsciiCase_self]

end Combination

theorem validateCapture_cases (hotkey : String) :
    validateCapture hotkey = .ok () ∨ validateCapture hotkey = .error (.invalidCapture hotkey) := by
  unfold validateCapture
  dsimp only
  split_ifs
  · exact .inr rfl
  · exact .inl rfl

theorem validateCapture_eq_ok_iff {hotkey : String} :
    validateCapture hotkey = .ok () ↔
      (Combination.parse hotkey).key ≠ "" ∧
        ¬ (Combination.parse hotkey).Swallows (Combination.parse hotkey).key := by
  have canonical := (Combination.parse_normal hotkey).key.2
  unfold validateCapture
  dsimp only
  split_ifs with refused
  · refine iff_of_false (by simp) fun both => ?_
    rw [Combination.swallows_own_iff canonical both.1] at both
    simp only [Bool.or_eq_true, beq_iff_eq, Bool.and_eq_true] at refused
    exact refused.elim both.1 both.2
  · simp only [Bool.or_eq_true, beq_iff_eq, Bool.and_eq_true, not_or] at refused
    refine iff_of_true rfl ⟨refused.1, ?_⟩
    rw [Combination.swallows_own_iff canonical refused.1]
    exact refused.2

/-- A captured hotkey is accepted if and only if it has a key and swallows no typing key, by whatever
name the key goes; where its key is one of a keyboard, the names that keyboards use decide. A hotkey that is
refused is named in the error as it was given. -/
theorem accepted_iff_spares_typing (hotkey : String) :
    (validateCapture hotkey = .ok () ↔
      (Combination.parse hotkey).key ≠ "" ∧ ¬ ∃ key, (Combination.parse hotkey).Swallows key) ∧
    ((keyCode? (Combination.parse hotkey).key).isSome = true →
      (validateCapture hotkey = .ok () ↔
        ¬ ∃ code key, keyName? code = some key ∧ (Combination.parse hotkey).Swallows key)) ∧
    (validateCapture hotkey ≠ .ok () →
      validateCapture hotkey = .error (.invalidCapture hotkey)) := by
  have canonical := (Combination.parse_normal hotkey).key.2
  -- Whichever key is swallowed, the combination's own is.
  have own {key : String} (swallows : (Combination.parse hotkey).Swallows key) :
      (Combination.parse hotkey).Swallows (Combination.parse hotkey).key := by
    obtain ⟨nonempty, -, bare⟩ := (Combination.swallows_iff canonical).mp swallows
    exact (Combination.swallows_own_iff canonical nonempty).mpr bare
  refine ⟨?_, fun coded => ?_, (validateCapture_cases hotkey).resolve_left⟩
  · rw [validateCapture_eq_ok_iff]
    refine and_congr_right fun _ => not_congr ⟨fun swallows => ⟨_, swallows⟩, ?_⟩
    rintro ⟨key, swallows⟩
    exact own swallows
  · obtain ⟨code, coded⟩ := Option.isSome_iff_exists.mp coded
    have named := (keyCode?_eq_some_iff canonical).mp coded
    have nonempty : (Combination.parse hotkey).key ≠ "" := fun empty =>
      keyName?_nonempty (empty ▸ named)
    rw [validateCapture_eq_ok_iff, and_iff_right nonempty]
    refine not_congr ⟨fun swallows => ⟨code, _, named, swallows⟩, ?_⟩
    rintro ⟨_, key, -, swallows⟩
    exact own swallows

end GlobalHotkeys
