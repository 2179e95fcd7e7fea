import GlobalHotkeys.Portal.Basic
import GlobalHotkeys.Proofs.Hotkey.Normalization
import Mathlib.Data.Nat.Digits.Defs

namespace GlobalHotkeys

open Combination

def paddedDigits (zeros number : Nat) : List Char :=
  List.replicate zeros '0' ++ Nat.toDigits 10 number

theorem ofDigitChars_paddedDigits (zeros number : Nat) :
    Nat.ofDigitChars 10 (paddedDigits zeros number) 0 = number := by
  rw [paddedDigits, Nat.ofDigitChars_append, Nat.ofDigitChars_replicate_zero, Nat.mul_zero,
    Nat.ofDigitChars_ten_toDigits]

theorem isDigit_of_mem_paddedDigits {zeros number : Nat} {c : Char}
    (member : c ∈ paddedDigits zeros number) : c.isDigit = true := by
  rcases List.mem_append.mp member with zero | digit
  · obtain rfl := List.eq_of_mem_replicate zero
    rfl
  · exact Nat.isDigit_of_mem_toDigits (by decide) (by decide) digit

theorem digitChar_of_isDigit {c : Char} (digit : c.isDigit = true) :
    c.toNat - '0'.toNat < 10 ∧ (c.toNat - '0'.toNat).digitChar = c := by
  have bounds := Char.isDigit_iff_toNat.mp digit
  have zero : '0'.toNat = 48 := rfl
  have nine : '9'.toNat = 57 := rfl
  refine ⟨by omega, Char.toNat_inj.mp ?_⟩
  rw [Nat.toNat_digitChar_of_lt_ten (by omega)]
  omega

theorem toDigits_append_digits {number : Nat} (positive : 0 < number) {digits : List Char}
    (allDigits : ∀ c ∈ digits, c.isDigit = true) :
    Nat.toDigits 10 number ++ digits = Nat.toDigits 10 (Nat.ofDigitChars 10 digits number) := by
  induction digits generalizing number with
  | nil => simp
  | cons c rest ih =>
      obtain ⟨small, same⟩ := digitChar_of_isDigit (allDigits c List.mem_cons_self)
      have grown : 0 < 10 * number + (c.toNat - '0'.toNat) := by omega
      have longer := Nat.toDigits_append_toDigits (by decide) positive small
      rw [Nat.toDigits_of_lt_base small, same] at longer
      rw [Nat.ofDigitChars_cons, ← ih grown fun d later => allDigits d (List.mem_cons_of_mem _ later),
        ← longer, List.append_assoc, List.singleton_append]

theorem exists_paddedDigits {digits : List Char} (allDigits : ∀ c ∈ digits, c.isDigit = true)
    (positive : 0 < Nat.ofDigitChars 10 digits 0) :
    ∃ zeros, digits = paddedDigits zeros (Nat.ofDigitChars 10 digits 0) := by
  induction digits with
  | nil => cases positive
  | cons c rest ih =>
      have others : ∀ d ∈ rest, d.isDigit = true :=
        fun d later => allDigits d (List.mem_cons_of_mem _ later)
      obtain ⟨small, same⟩ := digitChar_of_isDigit (allDigits c List.mem_cons_self)
      have number : Nat.ofDigitChars 10 (c :: rest) 0 =
          Nat.ofDigitChars 10 rest (c.toNat - '0'.toNat) := by
        rw [Nat.ofDigitChars_cons, Nat.mul_zero, Nat.zero_add]
      rw [number] at positive ⊢
      by_cases leading : c.toNat - '0'.toNat = 0
      · rw [leading] at positive same ⊢
        obtain ⟨zeros, padded⟩ := ih others positive
        exact ⟨zeros + 1, congrArg₂ List.cons same.symm padded⟩
      · refine ⟨0, ?_⟩
        have whole := toDigits_append_digits (Nat.pos_of_ne_zero leading) others
        rw [Nat.toDigits_of_lt_base small, same] at whole
        exact whole

theorem isFunctionKeyNumber_iff {digits : List Char} :
    isFunctionKeyNumber digits = true ↔
      ∃ zeros number, 1 ≤ number ∧ number ≤ 24 ∧ digits = paddedDigits zeros number := by
  have written : digits.foldl (fun value digit => value * 10 + (digit.toNat - '0'.toNat)) 0 =
      Nat.ofDigitChars 10 digits 0 := by
    simp only [Nat.ofDigitChars_eq_foldl, Nat.mul_comm]
  simp only [isFunctionKeyNumber, written, Bool.and_eq_true, Bool.not_eq_true', List.all_eq_true,
    decide_eq_true_eq]
  constructor
  · rintro ⟨⟨⟨-, allDigits⟩, least⟩, most⟩
    obtain ⟨zeros, padded⟩ := exists_paddedDigits allDigits least
    exact ⟨zeros, _, least, most, padded⟩
  · rintro ⟨zeros, number, least, most, rfl⟩
    rw [ofDigitChars_paddedDigits]
    refine ⟨⟨⟨?_, fun c => isDigit_of_mem_paddedDigits⟩, least⟩, most⟩
    simp [paddedDigits, Nat.toDigits_ne_nil]

def functionKeyName (letter : Char) (zeros number : Nat) : String :=
  String.ofList (letter :: paddedDigits zeros number)

theorem isFunctionKey_iff {key : String} :
    isFunctionKey key = true ↔
      ∃ zeros number, 1 ≤ number ∧ number ≤ 24 ∧ key = functionKeyName 'f' zeros number := by
  have named (zeros number : Nat) : key = functionKeyName 'f' zeros number ↔
      key.toList = 'f' :: paddedDigits zeros number := by
    rw [← String.toList_inj, functionKeyName, String.toList_ofList]
  simp only [named, isFunctionKey]
  split
  case h_1 digits letters => simp [letters, isFunctionKeyNumber_iff]
  case h_2 other =>
    refine iff_of_false (by simp) ?_
    rintro ⟨zeros, number, -, -, letters⟩
    exact other _ letters

theorem toUpper_of_isDigit {c : Char} (digit : c.isDigit = true) : c.toUpper = c := by
  have bounds := Char.isDigit_iff_toNat.mp digit
  have nine : '9'.toNat = 57 := rfl
  unfold Char.toUpper
  split
  · next small =>
    have letter : 97 ≤ c.toNat := UInt32.le_iff_toNat_le.mp small.1
    omega
  · rfl

theorem map_toUpper_functionKeyName (zeros number : Nat) :
    String.ofList ((functionKeyName 'f' zeros number).toList.map Char.toUpper) =
      functionKeyName 'F' zeros number := by
  have kept : (paddedDigits zeros number).map Char.toUpper = paddedDigits zeros number :=
    (List.map_congr_left fun c member =>
      toUpper_of_isDigit (isDigit_of_mem_paddedDigits member)).trans (List.map_id' _)
  rw [functionKeyName, String.toList_ofList, List.map_cons, kept]
  rfl

def triggerWords : List (String × List String) :=
  [("Ctrl", ["ctrl", "control"]), ("Shift", ["shift"]), ("Alt", ["alt"]), ("AltGr", ["altgr"]),
   ("Super", ["super", "meta", "win"]), ("Hyper", ["hyper"])]

/-- The modifier that a side's key is taken for. The portal has no sides, but the right Alt is its own. -/
def Side.generic : Side → String
  | leftCtrl | rightCtrl => "ctrl"
  | leftShift | rightShift => "shift"
  | leftAlt => "alt"
  | rightAlt => "altgr"
  | leftMeta | rightMeta => "super"

/-- The word for a modifier. One that is no known modifier stands for itself. -/
inductive TriggerWord : (modifier word : String) → Prop where
  | generic {word name : String} {names : List String} (row : (word, names) ∈ triggerWords)
      (named : name ∈ names) : TriggerWord name word
  | side (side : Side) {word : String} (generic : TriggerWord side.generic word) :
      TriggerWord side.name word
  | unknown {name : String} (unknown : isModifier name = false) : TriggerWord name name

theorem acceleratorModifier_of_unknown {name : String} (canonical : canonicalKey name = name)
    (unknown : isModifier name = false) : acceleratorModifier name = name := by
  rw [isModifier_of_canonical canonical] at unknown
  unfold acceleratorModifier
  split
  case h_18 => rfl
  all_goals exact absurd unknown (by decide)

theorem Side.canonicalKey_generic (side : Side) : canonicalKey side.generic = side.generic := by
  have checked : side.generic.toList.all isNameChar = true ∧ keyAliases.lookup side.generic = none := by
    cases side <;> decide
  exact canonicalKey_of_isNameChar checked.1 checked.2

theorem TriggerWord.eq_acceleratorModifier {name word : String} (written : TriggerWord name word)
    (canonical : canonicalKey name = name) : acceleratorModifier name = word := by
  induction written with
  | @generic word name names row named =>
      have rows : ∀ entry ∈ triggerWords, ∀ name ∈ entry.2, acceleratorModifier name = entry.1 := by
        decide
      exact rows _ row name named
  | side side _ ih =>
      rw [← ih side.canonicalKey_generic]
      cases side <;> rfl
  | unknown unknown => exact acceleratorModifier_of_unknown canonical unknown

theorem TriggerWord.of_generic {name : String} (known : name ∈ genericModifiers) :
    ∃ word, TriggerWord name word := by
  have rows : ∀ name ∈ genericModifiers, ∃ entry ∈ triggerWords, name ∈ entry.2 := by decide
  obtain ⟨entry, row, named⟩ := rows name known
  exact ⟨entry.1, .generic row named⟩

theorem TriggerWord.exists_word {name : String} (canonical : canonicalKey name = name) :
    ∃ word, TriggerWord name word := by
  cases known : isModifier name with
  | false => exact ⟨name, .unknown known⟩
  | true =>
      rw [isModifier_of_canonical canonical, Bool.or_eq_true, List.contains_iff_mem,
        List.contains_iff_mem] at known
      rcases known with generic | sided
      · exact TriggerWord.of_generic generic
      · obtain ⟨side, -, rfl⟩ := List.mem_map.mp sided
        have known : side.generic ∈ genericModifiers := by cases side <;> decide
        obtain ⟨word, written⟩ := TriggerWord.of_generic known
        exact ⟨word, .side side written⟩

theorem triggerWord_iff {name word : String} (canonical : canonicalKey name = name) :
    TriggerWord name word ↔ acceleratorModifier name = word := by
  refine ⟨fun written => written.eq_acceleratorModifier canonical, ?_⟩
  rintro rfl
  obtain ⟨word, written⟩ := TriggerWord.exists_word canonical
  rwa [written.eq_acceleratorModifier canonical]

def triggerNames : List (String × String) :=
  [("enter", "Return"), ("tab", "Tab"), ("escape", "Escape"), ("backspace", "BackSpace"),
   ("delete", "Delete"), ("comma", "comma"), ("period", "period"), ("space", "space")]

/-- How a key is written: a named one by its name, a function key by `F` and its number, any other as it
is. -/
inductive TriggerKey : (key written : String) → Prop where
  | named {key written : String} (row : (key, written) ∈ triggerNames) : TriggerKey key written
  | function (zeros number : Nat) (least : 1 ≤ number) (most : number ≤ 24) :
      TriggerKey (functionKeyName 'f' zeros number) (functionKeyName 'F' zeros number)
  | other {key : String} (unnamed : ∀ written, (key, written) ∉ triggerNames)
      (ordinary : ∀ zeros number, 1 ≤ number → number ≤ 24 → key ≠ functionKeyName 'f' zeros number) :
      TriggerKey key key

theorem acceleratorKey_of_function {key : String} (function : isFunctionKey key = true) :
    acceleratorKey key = String.ofList (key.toList.map Char.toUpper) := by
  unfold acceleratorKey
  split
  case h_6 => rw [if_pos function]
  all_goals exact absurd function (by decide)

theorem acceleratorKey_of_other {key : String} (unnamed : ∀ written, (key, written) ∉ triggerNames)
    (ordinary : isFunctionKey key = false) : acceleratorKey key = key := by
  unfold acceleratorKey
  split
  case h_6 => rw [ordinary, if_neg Bool.false_ne_true]
  all_goals simp [triggerNames] at unnamed

theorem TriggerKey.eq_acceleratorKey {key written : String} (triggered : TriggerKey key written) :
    acceleratorKey key = written := by
  cases triggered with
  | named row =>
      have rows : ∀ entry ∈ triggerNames, acceleratorKey entry.1 = entry.2 := by decide
      exact rows _ row
  | function zeros number least most =>
      rw [acceleratorKey_of_function (isFunctionKey_iff.mpr ⟨zeros, number, least, most, rfl⟩),
        map_toUpper_functionKeyName]
  | other unnamed ordinary =>
      refine acceleratorKey_of_other unnamed (Bool.eq_false_iff.mpr fun function => ?_)
      obtain ⟨zeros, number, least, most, same⟩ := isFunctionKey_iff.mp function
      exact ordinary zeros number least most same

theorem TriggerKey.exists_written (key : String) : ∃ written, TriggerKey key written := by
  by_cases named : ∃ written, (key, written) ∈ triggerNames
  · exact named.imp fun written row => .named row
  · cases function : isFunctionKey key with
    | true =>
        obtain ⟨zeros, number, least, most, rfl⟩ := isFunctionKey_iff.mp function
        exact ⟨_, .function zeros number least most⟩
    | false =>
        refine ⟨key, .other (not_exists.mp named) fun zeros number least most same => ?_⟩
        exact absurd (isFunctionKey_iff.mpr ⟨zeros, number, least, most, same⟩) (by simp [function])

theorem triggerKey_iff {key written : String} :
    TriggerKey key written ↔ acceleratorKey key = written := by
  refine ⟨TriggerKey.eq_acceleratorKey, ?_⟩
  rintro rfl
  obtain ⟨written, triggered⟩ := TriggerKey.exists_written key
  rwa [triggered.eq_acceleratorKey]

/-- The trigger of a combination: the words for its modifiers between angle brackets, then its key. -/
def Combination.Trigger (combination : Combination) (text : String) : Prop :=
  ∃ words key, List.Forall₂ TriggerWord combination.modifiers words ∧ TriggerKey combination.key key ∧
    text = String.join (words.map fun word => "<" ++ word ++ ">") ++ key

theorem forall₂_triggerWord_iff {modifiers words : List String}
    (canonical : ∀ modifier ∈ modifiers, canonicalKey modifier = modifier) :
    List.Forall₂ TriggerWord modifiers words ↔ words = modifiers.map acceleratorModifier := by
  induction modifiers generalizing words with
  | nil => simp
  | cons modifier rest ih =>
      have later : List.Forall₂ TriggerWord rest words.tail ↔ words.tail = rest.map acceleratorModifier :=
        ih fun other member => canonical other (List.mem_cons_of_mem _ member)
      cases words with
      | nil => simp
      | cons word words =>
          rw [List.forall₂_cons, triggerWord_iff (canonical modifier List.mem_cons_self)]
          simpa [eq_comm] using fun _ => later

theorem trigger_iff {combination : Combination} (normal : combination.Normal) {text : String} :
    combination.Trigger text ↔
      text = String.join (combination.modifiers.map fun modifier =>
        "<" ++ acceleratorModifier modifier ++ ">") ++ acceleratorKey combination.key := by
  have canonical : ∀ modifier ∈ combination.modifiers, canonicalKey modifier = modifier :=
    fun modifier member => (normal.modifiers modifier member).2
  simp only [Trigger, forall₂_triggerWord_iff canonical, triggerKey_iff]
  constructor
  · rintro ⟨_, _, rfl, rfl, rfl⟩
    rw [List.map_map]
    rfl
  · rintro rfl
    refine ⟨_, _, rfl, rfl, ?_⟩
    rw [List.map_map]
    rfl

theorem keyAliases_spellings : ∀ entry ∈ keyAliases,
    canonicalKey entry.1 = entry.2 ∧ '+' ∉ entry.1.toList := by
  decide +kernel

theorem parse_append_key (front : String) {first second : String} (cleanFirst : '+' ∉ first.toList)
    (cleanSecond : '+' ∉ second.toList) (same : canonicalKey first = canonicalKey second) :
    parse (front ++ "+" ++ first) = parse (front ++ "+" ++ second) := by
  have cut {key : String} (clean : '+' ∉ key.toList) :
      Text.split '+' (front ++ "+" ++ key) = Text.split '+' front ++ [key] :=
    Text.split_append_separator front clean
  simp [parse, cut cleanFirst, cut cleanSecond, canonicalKey_plainName, same]

/-- The trigger of a hotkey is that of the combination it reads as, whose key is in lower case, and no
other text is. The normal form of a hotkey has the same trigger, so this is the one that a session is
sent for it; and the other spellings of a key may stand in its place. -/
theorem trigger_of_hotkey (hotkey : String) :
    (∀ text, (parse hotkey).Trigger text ↔ text = accelerator hotkey) ∧
    (∀ c ∈ (parse hotkey).key.toList, Text.IsLower c) ∧
    accelerator (normalizeHotkey hotkey) = accelerator hotkey ∧
    (Portal.shortcut (normalizeHotkey hotkey)).trigger = accelerator hotkey ∧
    ∀ entry ∈ keyAliases,
      accelerator (hotkey ++ "+" ++ entry.1) = accelerator (hotkey ++ "+" ++ entry.2) := by
  have normalized : accelerator (normalizeHotkey hotkey) = accelerator hotkey := by
    rw [accelerator, accelerator, parse_normalizeHotkey]
  refine ⟨fun text => trigger_iff (parse_normal hotkey), ?_, normalized, normalized, ?_⟩
  · exact fun c member => isLower_of_canonical (parse_normal hotkey).key.2 c member
  · intro entry member
    obtain ⟨spelling, clean⟩ := keyAliases_spellings entry member
    obtain ⟨letters, own⟩ := keyAliases_targets entry member
    have same := spelling.trans (canonicalKey_of_isNameChar letters own).symm
    have cleanName : '+' ∉ entry.2.toList :=
      fun plus => absurd (List.all_eq_true.mp letters '+' plus) (by decide)
    rw [accelerator, accelerator, parse_append_key hotkey clean cleanName same]

/-- A key is a function key with zeros before its number, though these are not in the names `f1` to
`f24`. -/
theorem accelerator_of_leading_zero :
    (parse "ctrl+f01").key = "f01" ∧
    (∀ number, 1 ≤ number → number ≤ 24 → "f01" ≠ functionKeyName 'f' 0 number) ∧
    accelerator "ctrl+f01" = "<Ctrl>F01" := by
  refine ⟨by decide +kernel, fun number _ _ same => ?_, by decide +kernel⟩
  have digits : ['0', '1'] = paddedDigits 0 number :=
    (List.cons.inj (String.ofList_injective same)).2
  have one : 1 = number := by
    rw [← ofDigitChars_paddedDigits 0 number, ← digits]
    rfl
  subst one
  exact absurd digits (by decide)

end GlobalHotkeys
