import GlobalHotkeys.Proofs.Hotkey.Combination
import Mathlib.Data.Set.Function

namespace GlobalHotkeys

open Combination

theorem parse_normalizeHotkey (hotkey : String) : parse (normalizeHotkey hotkey) = parse hotkey :=
  parse_text (parse_normal hotkey)

theorem normalizeHotkey_text {combination : Combination} (normal : combination.Normal) :
    normalizeHotkey combination.text = combination.text :=
  congrArg text (parse_text normal)

theorem normalizeHotkey_normalizeHotkey (hotkey : String) :
    normalizeHotkey (normalizeHotkey hotkey) = normalizeHotkey hotkey :=
  normalizeHotkey_text (parse_normal hotkey)

theorem normalizeHotkey_eq_iff {first second : String} :
    normalizeHotkey first = normalizeHotkey second ↔ parse first = parse second := by
  constructor
  · intro same
    rw [← parse_normalizeHotkey first, same, parse_normalizeHotkey]
  · exact congrArg text

theorem mapsTo_text : Set.MapsTo text {combination | combination.Normal} (Set.range normalizeHotkey) :=
  fun combination normal => ⟨combination.text, normalizeHotkey_text normal⟩

theorem mapsTo_parse : Set.MapsTo parse (Set.range normalizeHotkey) {combination | combination.Normal} :=
  fun hotkey _ => parse_normal hotkey

theorem invOn_parse_text :
    Set.InvOn parse text {combination | combination.Normal} (Set.range normalizeHotkey) := by
  refine ⟨fun combination normal => parse_text normal, ?_⟩
  rintro _ ⟨hotkey, rfl⟩
  exact normalizeHotkey_normalizeHotkey hotkey

/-- Whatever is read is in normal form, and reading a combination in normal form from its text gives it
back. Writing and reading are bijections between these combinations and the normalized texts, each the
inverse of the other; normalizing is idempotent and keeps apart exactly the texts that read differently. -/
theorem reading_inverts_writing :
    (∀ hotkey, (parse hotkey).Normal) ∧
    (∀ combination : Combination, combination.Normal → parse combination.text = combination) ∧
    Set.InvOn parse text {combination | combination.Normal} (Set.range normalizeHotkey) ∧
    Set.BijOn text {combination | combination.Normal} (Set.range normalizeHotkey) ∧
    Set.BijOn parse (Set.range normalizeHotkey) {combination | combination.Normal} ∧
    (∀ hotkey, normalizeHotkey (normalizeHotkey hotkey) = normalizeHotkey hotkey) ∧
    ∀ first second,
      normalizeHotkey first = normalizeHotkey second ↔ parse first = parse second := by
  have writes := invOn_parse_text.bijOn mapsTo_text mapsTo_parse
  have reads := invOn_parse_text.symm.bijOn mapsTo_parse mapsTo_text
  refine ⟨parse_normal, fun _ => parse_text, invOn_parse_text, writes, reads,
    normalizeHotkey_normalizeHotkey, fun first second => normalizeHotkey_eq_iff⟩

end GlobalHotkeys
