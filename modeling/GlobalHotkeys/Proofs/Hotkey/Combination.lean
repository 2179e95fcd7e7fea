import GlobalHotkeys.Proofs.Key.Table
import GlobalHotkeys.Proofs.Text.Split

namespace GlobalHotkeys

open Text

theorem nodup_eraseDups (names : List String) : names.eraseDups.Nodup := by
  generalize size : names.length = bound
  induction bound using Nat.strong_induction_on generalizing names with
  | _ bound ih =>
      cases names with
      | nil => simp
      | cons name rest =>
          have shorter := List.length_filter_le (fun other => !other == name) rest
          rw [List.eraseDups_cons, List.nodup_cons, List.mem_eraseDups]
          rw [List.length_cons] at size
          exact ⟨by simp, ih _ (by omega) _ rfl⟩

theorem eraseDups_of_nodup {names : List String} (distinct : names.Nodup) :
    names.eraseDups = names := by
  induction names with
  | nil => rfl
  | cons name rest ih =>
      obtain ⟨fresh, distinctRest⟩ := List.nodup_cons.mp distinct
      have kept : (rest.filter fun other => !other == name) = rest := by
        refine List.filter_eq_self.mpr fun other member => ?_
        simpa using fun same : other = name => fresh (same ▸ member)
      rw [List.eraseDups_cons, kept, ih distinctRest]

namespace Combination

theorem normalName_canonicalKey {token : String} (clean : '+' ∉ token.toList) :
    NormalName (canonicalKey token) := by
  refine ⟨?_, canonicalKey_canonicalKey token⟩
  cases found : keyAliases.lookup (plainName token) with
  | none =>
      rw [canonicalKey_eq_of_lookup_none found]
      exact fun plus => clean (plus_mem_plainName plus)
  | some target =>
      obtain ⟨before, after, split, -⟩ := List.lookup_eq_some_iff.mp found
      obtain ⟨letters, -⟩ := keyAliases_targets (plainName token, target) (by simp [split])
      simp only [canonicalKey, found, Option.getD_some]
      exact fun plus => absurd (List.all_eq_true.mp letters '+' plus) (by decide)

theorem canonicalKey_ne_empty {token : String} (plain : plainName token = token)
    (nonempty : token ≠ "") : canonicalKey token ≠ "" := by
  have targets : ∀ entry ∈ keyAliases, entry.2 ≠ "" := by decide
  cases found : keyAliases.lookup (plainName token) with
  | none => rwa [canonicalKey_eq_of_lookup_none found, plain]
  | some target =>
      obtain ⟨before, after, split, -⟩ := List.lookup_eq_some_iff.mp found
      simp only [canonicalKey, found, Option.getD_some]
      exact targets (plainName token, target) (by simp [split])

theorem tokens_clean {hotkey token : String} (member : token ∈ (split '+' hotkey).map plainName) :
    plainName token = token ∧ '+' ∉ token.toList := by
  obtain ⟨piece, inHotkey, rfl⟩ := List.mem_map.mp member
  exact ⟨plainName_plainName piece,
    fun plus => not_mem_of_mem_split inHotkey (plus_mem_plainName plus)⟩

theorem lastToken_clean (hotkey : String) :
    '+' ∉ (((split '+' hotkey).map plainName).getLastD "").toList := by
  rw [List.getLastD_eq_getLast?]
  cases last : ((split '+' hotkey).map plainName).getLast? with
  | none => simp
  | some token => exact (tokens_clean (List.mem_of_getLast? last)).2

theorem parse_key (hotkey : String) :
    (parse hotkey).key = canonicalKey (((split '+' hotkey).map plainName).getLastD "") := by
  simp only [parse]

theorem mem_parse_modifiers {hotkey modifier : String}
    (member : modifier ∈ (parse hotkey).modifiers) :
    ∃ token ∈ (split '+' hotkey).map plainName, token ≠ "" ∧ canonicalKey token = modifier := by
  simp only [parse, List.mem_eraseDups, List.mem_map, List.mem_filter, bne_iff_ne] at member
  obtain ⟨token, ⟨inTokens, nonempty⟩, same⟩ := member
  exact ⟨token, List.dropLast_subset _ inTokens, nonempty, same⟩

theorem parse_modifiers_nodup (hotkey : String) : (parse hotkey).modifiers.Nodup := by
  simp only [parse]
  apply nodup_eraseDups

theorem parse_normal (hotkey : String) : (parse hotkey).Normal where
  key := by
    rw [parse_key]
    exact normalName_canonicalKey (lastToken_clean hotkey)
  modifiers := by
    intro modifier member
    obtain ⟨token, inTokens, -, rfl⟩ := mem_parse_modifiers member
    exact normalName_canonicalKey (tokens_clean inTokens).2
  nonempty := by
    intro empty
    obtain ⟨token, inTokens, nonempty, same⟩ := mem_parse_modifiers empty
    exact canonicalKey_ne_empty (tokens_clean inTokens).1 nonempty same
  distinct := parse_modifiers_nodup hotkey

theorem parse_join {modifiers : List String} {key : String}
    (normal : ∀ modifier ∈ modifiers, NormalName modifier) (nonempty : "" ∉ modifiers)
    (distinct : modifiers.Nodup) (clean : '+' ∉ key.toList) :
    parse (join "+" (modifiers ++ [key])) = { modifiers, key := canonicalKey key } := by
  have cut : split '+' (join "+" (modifiers ++ [key])) = modifiers ++ [key] := by
    show split '+' (join (String.singleton '+') (modifiers ++ [key])) = modifiers ++ [key]
    apply split_join (by simp)
    intro name member
    rcases List.mem_append.mp member with modifier | last
    · exact (normal name modifier).1
    · exact List.mem_singleton.mp last ▸ clean
  have plain : modifiers.map plainName = modifiers := by
    refine (List.map_congr_left fun modifier member => ?_).trans (List.map_id' _)
    exact plainName_of_canonical (normal modifier member).2
  have kept : modifiers.filter (· != "") = modifiers := by
    refine List.filter_eq_self.mpr fun modifier member => ?_
    simpa using fun empty : modifier = "" => nonempty (empty ▸ member)
  have canonical : modifiers.map canonicalKey = modifiers :=
    (List.map_congr_left fun modifier member => (normal modifier member).2).trans (List.map_id' _)
  have last : (modifiers ++ [plainName key]).getLastD "" = plainName key := by simp
  simp only [parse, cut, List.map_append, List.map_singleton, plain, List.dropLast_concat, kept,
    canonical, last]
  rw [eraseDups_of_nodup distinct, canonicalKey_plainName]

theorem parse_text {combination : Combination} (normal : combination.Normal) :
    parse combination.text = combination := by
  rw [text, parse_join normal.modifiers normal.nonempty normal.distinct normal.key.1, normal.key.2]

theorem triggeredBy_iff {combination : Combination} {key : String} {held : Held}
    (normal : NormalName combination.key) (canonical : canonicalKey key = key) :
    combination.triggeredBy key held = true ↔
      combination.key ≠ "" ∧ combination.key = key ∧
        ∀ modifier ∈ combination.modifiers, held.holds modifier = true := by
  have same : sameUpToAsciiCase combination.key key = true ↔ combination.key = key :=
    sameUpToAsciiCase_iff (isLower_of_canonical normal.2) (isLower_of_canonical canonical)
  simp only [triggeredBy, Bool.and_eq_true, bne_iff_ne, List.all_eq_true, same, and_assoc]

end Combination

theorem heldModifiers_sublist (held : Held) :
    (heldModifiers held).Sublist ["ctrl", "alt", "altgr", "shift", "super"] := by
  have one (down : Bool) (name : String) : (if down then [name] else []).Sublist [name] := by
    cases down <;> simp
  exact ((((one _ "ctrl").append (one _ "alt")).append (one _ "altgr")).append (one _ "shift")).append
    (one _ "super")

theorem heldModifiers_normal (held : Held) {key : String} (normal : Combination.NormalName key) :
    Combination.Normal { modifiers := heldModifiers held, key } where
  key := normal
  modifiers := by
    have names : ∀ name ∈ ["ctrl", "alt", "altgr", "shift", "super"],
        name.toList.all isNameChar = true ∧ keyAliases.lookup name = none ∧ '+' ∉ name.toList := by
      decide
    intro modifier member
    obtain ⟨letters, own, clean⟩ := names modifier ((heldModifiers_sublist held).subset member)
    exact ⟨clean, canonicalKey_of_isNameChar letters own⟩
  nonempty := fun empty => absurd ((heldModifiers_sublist held).subset empty) (by decide)
  distinct := (heldModifiers_sublist held).nodup (by decide)

theorem parse_combinationText_of_clean (held : Held) {key : String} (clean : '+' ∉ key.toList) :
    Combination.parse (combinationText key held) =
      { modifiers := heldModifiers held, key := canonicalKey key } := by
  have normal := heldModifiers_normal held (Combination.normalName_canonicalKey clean)
  exact Combination.parse_join normal.modifiers normal.nonempty normal.distinct clean

theorem parse_combinationText (held : Held) {key : String} (normal : Combination.NormalName key) :
    Combination.parse (combinationText key held) = { modifiers := heldModifiers held, key } := by
  rw [parse_combinationText_of_clean held normal.1, normal.2]

end GlobalHotkeys
