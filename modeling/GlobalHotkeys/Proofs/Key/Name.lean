import GlobalHotkeys.Hotkey.Combination
import GlobalHotkeys.Proofs.Text.AsciiCase
import Mathlib.Data.List.Nodup

namespace GlobalHotkeys

open Text

theorem toList_plainName (name : String) :
    (plainName name).toList = lowerAfter [] (trimChars name.toList) := by
  simp [plainName, lowerChars]

theorem isLower_of_mem_plainName {name : String} {c : Char} (member : c ∈ (plainName name).toList) :
    IsLower c := by
  rw [toList_plainName] at member
  exact isLower_of_mem_lowerAfter member

theorem plainName_eq_self {name : String} (lower : ∀ c ∈ name.toList, IsLower c)
    (trimmed : Trimmed name.toList) : plainName name = name := by
  rw [← String.toList_inj, toList_plainName, trimmed.trimChars_eq, lowerAfter_of_isLower lower]

@[simp] theorem plainName_plainName (name : String) : plainName (plainName name) = plainName name := by
  refine plainName_eq_self (fun c => isLower_of_mem_plainName) ?_
  rw [toList_plainName]
  exact (trimmed_trimChars name.toList).lowerAfter []

theorem plus_mem_plainName {name : String} (member : '+' ∈ (plainName name).toList) :
    '+' ∈ name.toList := by
  rw [toList_plainName, plus_mem_lowerAfter] at member
  have trimmed : trimChars name.toList = (name.toList.dropWhile isBlank).rdropWhile isBlank := rfl
  rw [trimmed] at member
  exact (List.dropWhile_suffix isBlank).subset ((List.rdropWhile_prefix _ _).subset member)

theorem plainName_of_same {name other : String} (plain : plainName name = name)
    (same : sameUpToAsciiCase name other = true) : plainName other = name := by
  refine lowerCase_trim_of_same (fun c member => ?_) ?_ same
  · rw [← plain] at member
    exact isLower_of_mem_plainName member
  · rw [← plain, toList_plainName]
    exact (trimmed_trimChars name.toList).lowerAfter []

def isNameChar (c : Char) : Bool :=
  ('a' ≤ c && c ≤ 'z') || ('0' ≤ c && c ≤ '9')

theorem caseRanges_above : ∀ range ∈ caseRanges, range = ⟨0x41, 0x5A, 1, 0x61⟩ ∨ 0xC0 ≤ range.first := by
  have checked : (caseRanges.all fun range =>
      (range.first == 0x41 && range.last == 0x5A && range.stride == 1 && range.image == 0x61) ||
        Nat.ble 0xC0 range.first) = true := by
    decide +kernel
  intro range member
  have hit := List.all_eq_true.mp checked range member
  simp only [Bool.or_eq_true, Bool.and_eq_true, beq_iff_eq, Nat.ble_eq] at hit
  rcases hit with ⟨⟨⟨first, last⟩, stride⟩, image⟩ | above
  · cases range
    simp_all
  · exact Or.inr above

theorem isNameChar_bounds {c : Char} (letter : isNameChar c = true) :
    (97 ≤ c.toNat ∧ c.toNat ≤ 122) ∨ (48 ≤ c.toNat ∧ c.toNat ≤ 57) := by
  simpa [isNameChar, Char.le_def, UInt32.le_iff_toNat_le] using letter

theorem isLower_of_isNameChar {c : Char} (letter : isNameChar c = true) : IsLower c := by
  have bounds := isNameChar_bounds letter
  refine ⟨?_, fun range member => ?_⟩
  · rintro rfl
    revert bounds
    decide
  · rw [Bool.eq_false_iff, Ne, CaseRange.covers_iff]
    rintro ⟨low, high, -⟩
    rcases caseRanges_above range member with rfl | above
    · simp only at low high
      omega
    · omega

theorem isBlank_of_isNameChar {c : Char} (letter : isNameChar c = true) : isBlank c = false := by
  have bounds := isNameChar_bounds letter
  rw [Bool.eq_false_iff, Ne, isBlank_iff]
  simp only [blankCodes, List.mem_cons, List.not_mem_nil, or_false]
  omega

theorem trimmed_of_isNameChar {text : List Char} (letters : text.all isNameChar = true) :
    Trimmed text := by
  rw [List.all_eq_true] at letters
  constructor
  · exact fun c first => isBlank_of_isNameChar (letters c (List.mem_of_mem_head? first))
  · exact fun c last => isBlank_of_isNameChar (letters c (List.mem_of_mem_getLast? last))

theorem plainName_of_isNameChar {name : String} (letters : name.toList.all isNameChar = true) :
    plainName name = name := by
  refine plainName_eq_self (fun c member => ?_) (trimmed_of_isNameChar letters)
  exact isLower_of_isNameChar (List.all_eq_true.mp letters c member)

theorem keyAliases_targets : ∀ entry ∈ keyAliases,
    entry.2.toList.all isNameChar = true ∧ keyAliases.lookup entry.2 = none := by
  decide

theorem canonicalKey_eq_of_lookup_none {name : String}
    (own : keyAliases.lookup (plainName name) = none) : canonicalKey name = plainName name := by
  simp [canonicalKey, own]

theorem canonicalKey_cases (name : String) :
    plainName (canonicalKey name) = canonicalKey name ∧
      keyAliases.lookup (canonicalKey name) = none := by
  cases found : keyAliases.lookup (plainName name) with
  | none => simpa [canonicalKey_eq_of_lookup_none found] using found
  | some target =>
      have entry : (plainName name, target) ∈ keyAliases := by
        obtain ⟨before, after, split, -⟩ := List.lookup_eq_some_iff.mp found
        simp [split]
      obtain ⟨letters, own⟩ := keyAliases_targets _ entry
      simp only [canonicalKey, found, Option.getD_some]
      exact ⟨plainName_of_isNameChar letters, own⟩

@[simp] theorem canonicalKey_canonicalKey (name : String) :
    canonicalKey (canonicalKey name) = canonicalKey name := by
  obtain ⟨plain, own⟩ := canonicalKey_cases name
  rw [canonicalKey_eq_of_lookup_none (by rwa [plain]), plain]

theorem canonicalKey_plainName (name : String) : canonicalKey (plainName name) = canonicalKey name := by
  simp only [canonicalKey, plainName_plainName]

theorem plainName_of_canonical {name : String} (canonical : canonicalKey name = name) :
    plainName name = name :=
  canonical ▸ (canonicalKey_cases name).1

theorem isLower_of_mem_canonicalKey {name : String} {c : Char}
    (member : c ∈ (canonicalKey name).toList) : IsLower c := by
  rw [← (canonicalKey_cases name).1] at member
  exact isLower_of_mem_plainName member

theorem isLower_of_canonical {name : String} (canonical : canonicalKey name = name) :
    ∀ c ∈ name.toList, IsLower c := by
  intro c member
  rw [← canonical] at member
  exact isLower_of_mem_canonicalKey member

theorem canonicalKey_of_same {name other : String} (canonical : canonicalKey name = name)
    (same : sameUpToAsciiCase name other = true) : canonicalKey other = name := by
  have plain := plainName_of_same (plainName_of_canonical canonical) same
  rw [← canonicalKey_plainName, plain, canonical]

theorem canonicalKey_of_isNameChar {name : String} (letters : name.toList.all isNameChar = true)
    (own : keyAliases.lookup name = none) : canonicalKey name = name := by
  have plain := plainName_of_isNameChar letters
  rw [canonicalKey_eq_of_lookup_none (by rwa [plain]), plain]

end GlobalHotkeys
