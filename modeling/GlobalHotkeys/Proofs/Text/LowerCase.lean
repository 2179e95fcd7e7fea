import GlobalHotkeys.Text.Basic
import GlobalHotkeys.Text.LowerCase
import Mathlib.Data.List.DropRight

namespace GlobalHotkeys.Text

def CaseRange.lastImage (range : CaseRange) : Nat :=
  range.image + (range.last - range.first)

/-- No image of a capital of `range` is a capital of `other`: they lie apart, or on codes of
different parity. -/
def CaseRange.imageMisses (range other : CaseRange) : Bool :=
  Nat.blt range.lastImage other.first || Nat.blt other.last range.image ||
    ((range.stride == 2 || range.first == range.last) && other.stride == 2 &&
      (range.image + other.first) % 2 == 1)

def CaseRange.avoids (range : CaseRange) (code : Nat) : Bool :=
  (Nat.blt code range.first || Nat.blt range.last code) &&
    (Nat.blt code range.image || Nat.blt range.lastImage code)

def CaseRange.imagesValid (range : CaseRange) : Bool :=
  range.lastImage < 0xD800 || (0xE000 ≤ range.image && range.lastImage < 0x110000)

def blankCodes : List Nat :=
  [9, 10, 11, 12, 13, 0x20, 0x85, 0xA0, 0x1680, 0x2000, 0x2001, 0x2002, 0x2003, 0x2004, 0x2005,
   0x2006, 0x2007, 0x2008, 0x2009, 0x200A, 0x2028, 0x2029, 0x202F, 0x205F, 0x3000]

def caselessCodes : List Nat :=
  0x2B :: blankCodes

theorem images_miss : ∀ range ∈ caseRanges, ∀ other ∈ caseRanges, range.imageMisses other := by
  have checked : (caseRanges.all fun range => caseRanges.all range.imageMisses) = true := by
    decide +kernel
  simpa only [List.all_eq_true] using checked

theorem images_valid : ∀ range ∈ caseRanges, range.imagesValid := by
  decide +kernel

theorem caseless_avoided : ∀ range ∈ caseRanges, ∀ code ∈ 0x130 :: caselessCodes,
    range.avoids code := by
  have checked : (caseRanges.all fun range => (0x130 :: caselessCodes).all range.avoids) = true := by
    decide +kernel
  simpa only [List.all_eq_true] using checked

theorem CaseRange.covers_iff {range : CaseRange} {code : Nat} :
    range.covers code = true ↔
      range.first ≤ code ∧ code ≤ range.last ∧ (code - range.first) % range.stride = 0 := by
  simp [CaseRange.covers, and_assoc]

theorem CaseRange.covers_image {range other : CaseRange} {code : Nat}
    (misses : range.imageMisses other) (covered : range.covers code) :
    other.covers (range.image + (code - range.first)) = false := by
  obtain ⟨low, high, aligned⟩ := CaseRange.covers_iff.mp covered
  rw [Bool.eq_false_iff]
  intro hit
  obtain ⟨otherLow, otherHigh, otherAligned⟩ := CaseRange.covers_iff.mp hit
  simp only [CaseRange.imageMisses, CaseRange.lastImage, Bool.or_eq_true, Bool.and_eq_true,
    Nat.blt_eq, beq_iff_eq] at misses
  rcases misses with (below | above) | ⟨⟨step | single, otherStep⟩, parity⟩
  · omega
  · omega
  · rw [step] at aligned
    rw [otherStep] at otherAligned
    omega
  · rw [otherStep] at otherAligned
    omega

def IsLower (c : Char) : Prop :=
  c ≠ 'İ' ∧ ∀ range ∈ caseRanges, range.covers c.toNat = false

instance : DecidablePred IsLower := fun c =>
  inferInstanceAs (Decidable (c ≠ 'İ' ∧ ∀ range ∈ caseRanges, range.covers c.toNat = false))

theorem lowerChar_of_uncovered {c : Char}
    (uncovered : ∀ range ∈ caseRanges, range.covers c.toNat = false) : lowerChar c = c := by
  have none : caseRanges.find? (·.covers c.toNat) = none := by
    simpa [List.find?_eq_none] using uncovered
  simp [lowerChar, none]

theorem lowerChar_cases (c : Char) :
    (lowerChar c = c ∧ ∀ range ∈ caseRanges, range.covers c.toNat = false) ∨
    ∃ range ∈ caseRanges, range.covers c.toNat = true ∧
      (lowerChar c).toNat = range.image + (c.toNat - range.first) := by
  cases found : caseRanges.find? (·.covers c.toNat) with
  | none =>
    have uncovered : ∀ range ∈ caseRanges, range.covers c.toNat = false := by
      simpa [List.find?_eq_none] using found
    exact Or.inl ⟨lowerChar_of_uncovered uncovered, uncovered⟩
  | some range =>
    have member := List.mem_of_find?_eq_some found
    have covered : range.covers c.toNat = true := by simpa using List.find?_some found
    obtain ⟨low, high, -⟩ := CaseRange.covers_iff.mp covered
    have valid : (range.image + (c.toNat - range.first)).isValidChar := by
      have images := images_valid range member
      unfold CaseRange.imagesValid CaseRange.lastImage at images
      simp only [Bool.or_eq_true, Bool.and_eq_true, decide_eq_true_eq] at images
      unfold Nat.isValidChar
      omega
    refine Or.inr ⟨range, member, covered, ?_⟩
    simp only [lowerChar, found]
    rw [Char.ofNat, dif_pos valid]
    rfl

theorem toNat_lowerChar_eq_iff {code : Nat} (apart : ∀ range ∈ caseRanges, range.avoids code)
    (c : Char) : (lowerChar c).toNat = code ↔ c.toNat = code := by
  rcases lowerChar_cases c with ⟨same, -⟩ | ⟨range, member, covered, image⟩
  · rw [same]
  · have avoided := apart range member
    obtain ⟨low, high, -⟩ := CaseRange.covers_iff.mp covered
    simp only [CaseRange.avoids, CaseRange.lastImage, Bool.or_eq_true, Bool.and_eq_true,
      Nat.blt_eq] at avoided
    omega

theorem isLower_lowerChar {c : Char} (plain : c ≠ 'İ') : IsLower (lowerChar c) := by
  rcases lowerChar_cases c with ⟨same, uncovered⟩ | ⟨range, member, covered, image⟩
  · rw [same]
    exact ⟨plain, uncovered⟩
  · refine ⟨fun dotted => plain ?_, fun other otherMember => ?_⟩
    · have apart : ∀ range ∈ caseRanges, range.avoids ('İ').toNat := fun range member =>
        caseless_avoided range member _ List.mem_cons_self
      exact Char.toNat_inj.mp ((toNat_lowerChar_eq_iff apart c).mp (by rw [dotted]))
    · rw [image]
      exact CaseRange.covers_image (images_miss range member other otherMember) covered

theorem IsLower.lowerChar_eq {c : Char} (lower : IsLower c) : lowerChar c = c :=
  lowerChar_of_uncovered lower.2

theorem IsLower.ne_sigma {c : Char} (lower : IsLower c) : c ≠ 'Σ' := by
  rintro rfl
  exact absurd lower (by decide)

theorem isBlank_iff (c : Char) : isBlank c = true ↔ c.toNat ∈ blankCodes := by
  simp only [isBlank, blankCodes, Bool.or_eq_true, Bool.and_eq_true, decide_eq_true_eq, beq_iff_eq,
    List.mem_cons, List.not_mem_nil, or_false]
  constructor <;> omega

theorem lowerAfter_cons (before : List Char) (c : Char) (rest : List Char) :
    ∃ lowered, lowerAfter before (c :: rest) = lowered ++ lowerAfter (c :: before) rest ∧
      lowered ≠ [] ∧
      ∀ d ∈ lowered, IsLower d ∧ ∀ code ∈ caselessCodes, d.toNat = code ↔ c.toNat = code := by
  by_cases sigma : c = 'Σ'
  · subst sigma
    by_cases final : letterFollows before && !letterFollows rest
    · refine ⟨['ς'], by simp only [lowerAfter, if_pos, final], by simp, ?_⟩
      simpa using ⟨by decide +kernel, by decide⟩
    · refine ⟨['σ'], by simp only [lowerAfter, if_pos, if_neg final], by simp, ?_⟩
      simpa using ⟨by decide +kernel, by decide⟩
  · by_cases dotted : c = 'İ'
    · subst dotted
      refine ⟨['i', '\u0307'], by simp only [lowerAfter, if_neg sigma, if_pos], by simp, ?_⟩
      simpa using ⟨⟨by decide +kernel, by decide⟩, by decide +kernel, by decide⟩
    · refine ⟨[lowerChar c], by simp only [lowerAfter, if_neg sigma, if_neg dotted], by simp, ?_⟩
      intro d member
      obtain rfl := List.mem_singleton.mp member
      refine ⟨isLower_lowerChar dotted, fun code caseless => toNat_lowerChar_eq_iff ?_ c⟩
      exact fun range inTable =>
        caseless_avoided range inTable code (List.mem_cons_of_mem _ caseless)

theorem isLower_of_mem_lowerAfter {before text : List Char} {d : Char}
    (member : d ∈ lowerAfter before text) : IsLower d := by
  induction text generalizing before with
  | nil => simp [lowerAfter] at member
  | cons c rest ih =>
      obtain ⟨lowered, split, -, lower⟩ := lowerAfter_cons before c rest
      rw [split] at member
      rcases List.mem_append.mp member with here | later
      · exact (lower d here).1
      · exact ih later

theorem lowerAfter_of_isLower {before text : List Char} (lower : ∀ c ∈ text, IsLower c) :
    lowerAfter before text = text := by
  induction text generalizing before with
  | nil => rfl
  | cons c rest ih =>
      have here := lower c List.mem_cons_self
      simp only [lowerAfter, if_neg here.ne_sigma, if_neg here.1, here.lowerChar_eq,
        List.singleton_append]
      rw [ih fun d later => lower d (List.mem_cons_of_mem _ later)]

theorem plus_mem_lowerAfter {before text : List Char} :
    '+' ∈ lowerAfter before text ↔ '+' ∈ text := by
  induction text generalizing before with
  | nil => simp [lowerAfter]
  | cons c rest ih =>
      obtain ⟨lowered, split, nonempty, lower⟩ := lowerAfter_cons before c rest
      have plus : ∀ d ∈ lowered, d = '+' ↔ c = '+' := by
        intro d member
        rw [← Char.toNat_inj, ← Char.toNat_inj]
        exact (lower d member).2 ('+').toNat List.mem_cons_self
      have here : '+' ∈ lowered ↔ '+' = c := by
        constructor
        · exact fun member => ((plus '+' member).mp rfl).symm
        · intro same
          obtain ⟨d, others, rfl⟩ := List.exists_cons_of_ne_nil nonempty
          exact (plus d List.mem_cons_self).mpr same.symm ▸ List.mem_cons_self
      rw [split, List.mem_append, List.mem_cons, here, ih]

structure Trimmed (text : List Char) : Prop where
  first : ∀ c ∈ text.head?, isBlank c = false
  last : ∀ c ∈ text.getLast?, isBlank c = false

theorem trimmed_trimChars (text : List Char) : Trimmed (trimChars text) := by
  have trimmed : trimChars text = (text.dropWhile isBlank).rdropWhile isBlank := rfl
  constructor
  · intro c first
    have front := List.rdropWhile_prefix isBlank (text.dropWhile isBlank)
    rw [← trimmed] at front
    obtain ⟨tail, whole⟩ := front
    have kept := List.head?_dropWhile_not isBlank text
    rw [← whole, List.head?_append, Option.mem_def.mp first] at kept
    simpa using kept
  · intro c last
    obtain ⟨nonempty, rfl⟩ := List.mem_getLast?_eq_getLast last
    exact Bool.eq_false_iff.mpr
      (List.rdropWhile_last_not isBlank (text.dropWhile isBlank) nonempty)

theorem Trimmed.trimChars_eq {text : List Char} (trimmed : Trimmed text) :
    trimChars text = text := by
  have front : text.dropWhile isBlank = text := by
    cases text with
    | nil => rfl
    | cons c rest => simp [trimmed.first c rfl]
  change (text.dropWhile isBlank).rdropWhile isBlank = text
  rw [front, List.rdropWhile_eq_self_iff]
  intro nonempty
  simp [trimmed.last _ (List.getLast?_eq_some_getLast nonempty)]

theorem isBlank_of_lowered {lowered : List Char} {c d : Char}
    (lower : ∀ d ∈ lowered, IsLower d ∧ ∀ code ∈ caselessCodes, d.toNat = code ↔ c.toNat = code)
    (member : d ∈ lowered) (solid : isBlank c = false) : isBlank d = false := by
  rw [Bool.eq_false_iff, Ne, isBlank_iff] at solid ⊢
  intro blank
  exact solid (((lower d member).2 d.toNat (List.mem_cons_of_mem _ blank)).mp rfl ▸ blank)

theorem Trimmed.lowerAfter {text : List Char} (trimmed : Trimmed text) (before : List Char) :
    Trimmed (lowerAfter before text) := by
  constructor
  · cases text with
    | nil => simp [Text.lowerAfter]
    | cons c rest =>
        obtain ⟨lowered, split, nonempty, lower⟩ := lowerAfter_cons before c rest
        obtain ⟨d, others, rfl⟩ := List.exists_cons_of_ne_nil nonempty
        rw [split]
        simpa using isBlank_of_lowered lower List.mem_cons_self (trimmed.first c rfl)
  · have last := trimmed.last
    clear trimmed
    induction text generalizing before with
    | nil => simp [Text.lowerAfter]
    | cons c rest ih =>
        obtain ⟨lowered, split, nonempty, lower⟩ := lowerAfter_cons before c rest
        rw [split]
        cases rest with
        | nil =>
            intro d isLast
            have member : d ∈ lowered := List.mem_of_getLast? (by simpa [Text.lowerAfter] using isLast)
            exact isBlank_of_lowered lower member (last c rfl)
        | cons next others =>
            obtain ⟨_, splitNext, nonemptyNext, -⟩ := lowerAfter_cons (c :: before) next others
            have rest := ih (c :: before) last
            rwa [List.getLast?_append_of_ne_nil _ (by simp [splitNext, nonemptyNext])]

end GlobalHotkeys.Text
