import GlobalHotkeys.Proofs.Key.Name

namespace GlobalHotkeys

theorem keyTable_codes : (keyTable.map Prod.fst).Nodup := by
  decide +kernel

theorem keyTable_names : (keyTable.map Prod.snd).Nodup := by
  decide +kernel

theorem keyTable_letters : ∀ entry ∈ keyTable,
    entry.2.toList.all isNameChar = true ∧ keyAliases.lookup entry.2 = none := by
  decide +kernel

theorem keyName?_eq_some_iff {code : KeyCode} {name : String} :
    keyName? code = some name ↔ (code, name) ∈ keyTable := by
  unfold keyName?
  rw [List.lookup_eq_some_iff]
  constructor
  · rintro ⟨before, after, split, -⟩
    simp [split]
  · intro member
    obtain ⟨before, after, split⟩ := List.append_of_mem member
    have codes := keyTable_codes
    rw [split, List.map_append, List.map_cons, List.nodup_append] at codes
    refine ⟨before, after, split, fun entry earlier => ?_⟩
    have different := codes.2.2 entry.1 (List.mem_map_of_mem earlier) code List.mem_cons_self
    simpa using different.symm

theorem codeNamed?_eq_some_iff {code : KeyCode} {name : String} :
    codeNamed? name = some code ↔ (code, name) ∈ keyTable := by
  unfold codeNamed?
  rw [Option.map_eq_some_iff]
  constructor
  · rintro ⟨⟨_, found⟩, located, rfl⟩
    have same : found = name := by simpa using List.find?_some located
    exact same ▸ List.mem_of_find?_eq_some located
  · intro member
    obtain ⟨before, after, split⟩ := List.append_of_mem member
    have names := keyTable_names
    rw [split, List.map_append, List.map_cons, List.nodup_append] at names
    refine ⟨(code, name), ?_, rfl⟩
    rw [List.find?_eq_some_iff_append]
    refine ⟨by simp, before, after, split, fun entry earlier => ?_⟩
    have different := names.2.2 entry.2 (List.mem_map_of_mem earlier) name List.mem_cons_self
    simpa using different

theorem canonicalKey_of_keyName? {code : KeyCode} {name : String} (named : keyName? code = some name) :
    canonicalKey name = name := by
  obtain ⟨letters, own⟩ := keyTable_letters _ (keyName?_eq_some_iff.mp named)
  exact canonicalKey_of_isNameChar letters own

theorem keyCode?_eq_some_iff {code : KeyCode} {name : String} (canonical : canonicalKey name = name) :
    keyCode? name = some code ↔ keyName? code = some name := by
  rw [keyCode?, canonical, codeNamed?_eq_some_iff, keyName?_eq_some_iff]

theorem keyName?_nonempty {code : KeyCode} : keyName? code ≠ some "" := by
  have named : ∀ entry ∈ keyTable, entry.2 ≠ "" := by decide +kernel
  exact fun empty => named _ (keyName?_eq_some_iff.mp empty) rfl

theorem plus_not_mem_keyName {code : KeyCode} {name : String} (named : keyName? code = some name) :
    '+' ∉ name.toList := by
  obtain ⟨letters, -⟩ := keyTable_letters _ (keyName?_eq_some_iff.mp named)
  exact fun member => absurd (List.all_eq_true.mp letters '+' member) (by decide)

theorem Side.name_injective {first second : Side} (same : first.name = second.name) :
    first = second := by
  cases first <;> cases second <;> first | rfl | exact absurd same (by decide)

theorem Side.ofCode?_eq_some_iff {code : KeyCode} {side : Side} :
    Side.ofCode? code = some side ↔ code = side.code :=
  ⟨fun found => (code_of_ofCode? found).symm, fun same => same ▸ ofCode?_code side⟩

theorem isModifier_of_canonical {name : String} (canonical : canonicalKey name = name) :
    isModifier name = (genericModifiers.contains name || sideModifiers.contains name) := by
  rw [isModifier, plainName_of_canonical canonical]

theorem isModifier_of_keyName? {code : KeyCode} {name : String} (named : keyName? code = some name) :
    isModifier name = (Side.ofCode? code).isSome := by
  have checked : ∀ entry ∈ keyTable,
      (genericModifiers.contains entry.2 || sideModifiers.contains entry.2) =
        (Side.ofCode? entry.1).isSome := by
    decide +kernel
  rw [isModifier_of_canonical (canonicalKey_of_keyName? named)]
  exact checked _ (keyName?_eq_some_iff.mp named)

/-- The keys that a modifier of a combination stands for: either side's, or the one of this name. -/
def sidesNamed (modifier : String) : List Side :=
  (genericSides modifier).getD (Side.all.filter fun side => side.name == modifier)

theorem genericSides_eq_none_iff (name : String) :
    genericSides name = none ↔ genericModifiers.contains name = false := by
  unfold genericSides
  split
  case h_10 =>
    simp only [genericModifiers, List.contains_eq_mem, decide_eq_false_iff_not, List.mem_cons,
      List.not_mem_nil, or_false, true_iff]
    tauto
  all_goals decide

theorem genericSides_ne_nil (name : String) : genericSides name ≠ some [] := by
  unfold genericSides
  split <;> decide

theorem isModifier_iff {name : String} (canonical : canonicalKey name = name) :
    isModifier name = true ↔ ∃ side, side ∈ sidesNamed name := by
  rw [isModifier_of_canonical canonical, sidesNamed]
  cases generic : genericSides name with
  | none =>
      rw [(genericSides_eq_none_iff name).mp generic]
      simp [sideModifiers]
  | some sides =>
      have contained : genericModifiers.contains name = true := by
        by_contra missing
        rw [Bool.not_eq_true, ← genericSides_eq_none_iff, generic] at missing
        cases missing
      have nonempty : sides ≠ [] := fun empty => genericSides_ne_nil name (empty ▸ generic)
      rw [contained, Bool.true_or, Option.getD_some]
      exact iff_of_true rfl (List.exists_mem_of_ne_nil sides nonempty)

def Held.Sided (held : Held) : Prop :=
  ∀ name, held.isDown name = true → ∃ side : Side, side.name = name

theorem Held.sided_empty : ({} : Held).Sided := by
  simp [Held.Sided, Held.isDown]

theorem Held.holds_iff {held : Held} (sided : held.Sided) (modifier : String) :
    held.holds modifier = true ↔ ∃ side ∈ sidesNamed modifier, held.isDown side.name = true := by
  unfold Held.holds sidesNamed
  cases genericSides modifier with
  | some sides => simp
  | none =>
      simp only [Option.getD_none, List.mem_filter, beq_iff_eq]
      constructor
      · intro down
        obtain ⟨side, rfl⟩ := sided modifier down
        exact ⟨side, ⟨side.mem_all, rfl⟩, down⟩
      · rintro ⟨side, ⟨-, rfl⟩, down⟩
        exact down

end GlobalHotkeys
