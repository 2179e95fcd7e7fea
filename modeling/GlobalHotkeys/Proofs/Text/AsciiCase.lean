import GlobalHotkeys.Proofs.Text.LowerCase
import GlobalHotkeys.Text.Basic

namespace GlobalHotkeys.Text

theorem toLower_cases (c : Char) :
    c.toLower = c ∨ (0x41 ≤ c.toNat ∧ c.toNat ≤ 0x5A) ∧ c.toLower.toNat = c.toNat + 0x20 := by
  unfold Char.toLower
  split
  · next capital =>
    have low : 0x41 ≤ c.toNat := UInt32.le_iff_toNat_le.mp capital.1
    have high : c.toNat ≤ 0x5A := UInt32.le_iff_toNat_le.mp capital.2
    refine Or.inr ⟨⟨low, high⟩, ?_⟩
    show (c.val + 0x20).toNat = c.val.toNat + 0x20
    rw [UInt32.toNat_add]
    exact Nat.mod_eq_of_lt (show c.toNat + 0x20 < 2 ^ 32 by omega)
  · exact Or.inl rfl

theorem isBlank_toLower (c : Char) : isBlank c.toLower = isBlank c := by
  rcases toLower_cases c with same | ⟨capital, lowered⟩
  · rw [same]
  · rw [Bool.eq_iff_iff, isBlank_iff, isBlank_iff, lowered]
    simp only [blankCodes, List.mem_cons, List.not_mem_nil, or_false]
    omega

theorem toLower_eq_plus_iff (c : Char) : c.toLower = '+' ↔ c = '+' := by
  rcases toLower_cases c with same | ⟨capital, lowered⟩
  · rw [same]
  · rw [← Char.toNat_inj, ← Char.toNat_inj, lowered]
    show c.toNat + 0x20 = 0x2B ↔ c.toNat = 0x2B
    omega

theorem covers_capital {c : Char} (capital : 0x41 ≤ c.toNat ∧ c.toNat ≤ 0x5A) :
    CaseRange.covers ⟨0x41, 0x5A, 1, 0x61⟩ c.toNat = true :=
  CaseRange.covers_iff.mpr ⟨capital.1, capital.2, Nat.mod_one _⟩

theorem IsLower.toLower_eq {c : Char} (lower : IsLower c) : c.toLower = c := by
  rcases toLower_cases c with same | ⟨capital, -⟩
  · exact same
  · have uncovered := lower.2 ⟨0x41, 0x5A, 1, 0x61⟩ (.head _)
    rw [covers_capital capital] at uncovered
    cases uncovered

theorem lowerChar_of_capital {c : Char} (capital : 0x41 ≤ c.toNat ∧ c.toNat ≤ 0x5A) :
    (lowerChar c).toNat = c.toNat + 0x20 := by
  have found : caseRanges.find? (·.covers c.toNat) = some ⟨0x41, 0x5A, 1, 0x61⟩ :=
    List.find?_cons_of_pos (covers_capital capital)
  have valid : (0x61 + (c.toNat - 0x41)).isValidChar := Or.inl (by omega)
  rw [lowerChar, found]
  show (Char.ofNat (0x61 + (c.toNat - 0x41))).toNat = c.toNat + 0x20
  rw [Char.ofNat, dif_pos valid]
  show 0x61 + (c.toNat - 0x41) = c.toNat + 0x20
  omega

theorem lowerAfter_cons_of_toLower {c : Char} (lower : IsLower c.toLower) (before rest : List Char) :
    lowerAfter before (c :: rest) = c.toLower :: lowerAfter (c :: before) rest := by
  have kept : c ≠ 'İ' ∧ c ≠ 'Σ' ∧ lowerChar c = c.toLower := by
    rcases toLower_cases c with same | ⟨capital, lowered⟩
    · rw [same] at lower ⊢
      exact ⟨lower.1, lower.ne_sigma, lower.lowerChar_eq⟩
    · refine ⟨?_, ?_, ?_⟩
      · rintro rfl
        exact absurd capital (by decide)
      · rintro rfl
        exact absurd capital (by decide)
      · rw [← Char.toNat_inj, lowerChar_of_capital capital, lowered]
  obtain ⟨dotless, usual, same⟩ := kept
  simp only [lowerAfter, if_neg usual, if_neg dotless, same, List.singleton_append]

theorem lowerAfter_of_map_toLower {text : List Char} (lower : ∀ c ∈ text, IsLower c.toLower)
    (before : List Char) : lowerAfter before text = text.map Char.toLower := by
  induction text generalizing before with
  | nil => rfl
  | cons c rest ih =>
      rw [lowerAfter_cons_of_toLower (lower c List.mem_cons_self),
        ih fun d later => lower d (List.mem_cons_of_mem _ later), List.map_cons]

theorem Trimmed.of_map_toLower {text : List Char} (trimmed : Trimmed (text.map Char.toLower)) :
    Trimmed text := by
  constructor
  · intro c first
    rw [← isBlank_toLower]
    exact trimmed.first c.toLower (by rw [List.head?_map, Option.mem_def.mp first]; rfl)
  · intro c last
    rw [← isBlank_toLower]
    exact trimmed.last c.toLower (by rw [List.getLast?_map, Option.mem_def.mp last]; rfl)

section Same

variable {first second : String}

theorem sameUpToAsciiCase_self (text : String) : sameUpToAsciiCase text text = true := by
  simp [sameUpToAsciiCase]

theorem map_toLower_of_isLower (lower : ∀ c ∈ first.toList, IsLower c) :
    first.toList.map Char.toLower = first.toList := by
  rw [List.map_congr_left fun c member => (lower c member).toLower_eq, List.map_id']

theorem sameUpToAsciiCase_iff (firstLower : ∀ c ∈ first.toList, IsLower c)
    (secondLower : ∀ c ∈ second.toList, IsLower c) :
    sameUpToAsciiCase first second = true ↔ first = second := by
  rw [sameUpToAsciiCase, beq_iff_eq, map_toLower_of_isLower firstLower,
    map_toLower_of_isLower secondLower, String.toList_inj]

theorem eq_empty_iff_of_same (same : sameUpToAsciiCase first second = true) :
    first = "" ↔ second = "" := by
  rw [sameUpToAsciiCase, beq_iff_eq] at same
  have lengths := congrArg List.length same
  rw [List.length_map, List.length_map] at lengths
  rw [← String.toList_eq_nil_iff, ← String.toList_eq_nil_iff, ← List.length_eq_zero_iff, lengths,
    List.length_eq_zero_iff]

theorem plus_mem_iff_of_same (same : sameUpToAsciiCase first second = true) :
    '+' ∈ first.toList ↔ '+' ∈ second.toList := by
  have lowered (text : List Char) : '+' ∈ text.map Char.toLower ↔ '+' ∈ text := by
    simp [List.mem_map, toLower_eq_plus_iff]
  rw [sameUpToAsciiCase, beq_iff_eq] at same
  rw [← lowered, same, lowered]

theorem lowerCase_trim_of_same (lower : ∀ c ∈ first.toList, IsLower c) (trimmed : Trimmed first.toList)
    (same : sameUpToAsciiCase first second = true) : lowerCase (trim second) = first := by
  rw [sameUpToAsciiCase, beq_iff_eq, map_toLower_of_isLower lower] at same
  rw [← String.toList_inj, toList_lowerCase, toList_trim, lowerChars]
  rw [same] at trimmed lower ⊢
  rw [trimmed.of_map_toLower.trimChars_eq, lowerAfter_of_map_toLower]
  exact fun c member => lower _ (List.mem_map_of_mem member)

end Same

end GlobalHotkeys.Text
