import GlobalHotkeys.Toml.Writer
import Mathlib.Data.List.Infix

namespace GlobalHotkeys.Toml

/-! ## Escapes -/

theorem codedChar_fourDigits {code : Nat} (small : code < 128) (rest : List Char) :
    codedChar 4 (fourDigits code ++ rest) = some (Char.ofNat code, rest) := by
  have known : ∀ code < 128, (fourDigits code).length = 4 ∧ (fourDigits code).all isHexDigit = true ∧
      numberOf 16 (fourDigits code) = code ∧ code.isValidChar := by decide
  obtain ⟨length, digits, number, valid⟩ := known code small
  have front : (fourDigits code ++ rest).take 4 = fourDigits code := List.take_left' length
  have back : (fourDigits code ++ rest).drop 4 = rest := List.drop_left' length
  simp [codedChar, front, back, length, digits, number, valid]

theorem exists_escape {c : Char} (small : c.toNat < 128) :
    ∃ letter tail, escapeOf c = '\\' :: letter :: tail ∧ letter ∉ [' ', '\t', '\n', '\r'] ∧
      ∀ rest, escaped (letter :: tail ++ rest) = some (c, rest) := by
  unfold escapeOf
  split_ifs with back tab line form carriage quote slash
  · exact ⟨'b', [], rfl, by decide, fun rest => by rw [back]; rfl⟩
  · exact ⟨'t', [], rfl, by decide, fun rest => by rw [tab]; rfl⟩
  · exact ⟨'n', [], rfl, by decide, fun rest => by rw [line]; rfl⟩
  · exact ⟨'f', [], rfl, by decide, fun rest => by rw [form]; rfl⟩
  · exact ⟨'r', [], rfl, by decide, fun rest => by rw [carriage]; rfl⟩
  · exact ⟨'"', [], rfl, by decide, fun rest => by rw [quote]; rfl⟩
  · exact ⟨'\\', [], rfl, by decide, fun rest => by rw [slash]; rfl⟩
  · refine ⟨'u', fourDigits c.toNat, rfl, by decide, fun rest => ?_⟩
    have read := codedChar_fourDigits small rest
    rw [Char.ofNat_toNat] at read
    exact read

theorem toNat_lt_of_isControl {c : Char} (control : isControl c = true) : c.toNat < 128 := by
  simp only [isControl, Bool.or_eq_true, Bool.and_eq_true, decide_eq_true_eq, beq_iff_eq] at control
  omega

theorem toNat_lt_of_alwaysEscaped {c : Char} (special : alwaysEscaped c = true) : c.toNat < 128 := by
  simp only [alwaysEscaped, Bool.or_eq_true, Bool.and_eq_true, decide_eq_true_eq] at special
  rcases special with (⟨control, -⟩ | rfl) | rfl
  · exact toNat_lt_of_isControl control
  · decide
  · decide

theorem toNat_lt_of_escaped {c : Char} (special : (alwaysEscaped c || c = '"' || c = '\n') = true) :
    c.toNat < 128 := by
  simp only [Bool.or_eq_true, decide_eq_true_eq] at special
  rcases special with (special | rfl) | rfl
  · exact toNat_lt_of_alwaysEscaped special
  · decide
  · decide

/-! ## One line -/

section Lines

variable {text rest : List Char}

theorem basicBody_escapeOf {c : Char} (small : c.toNat < 128) (rest : List Char) :
    basicBody (escapeOf c ++ rest) = (basicBody rest).map fun (body, left) => (c :: body, left) := by
  obtain ⟨letter, tail, written, -, read⟩ := exists_escape small
  rw [written, List.cons_append, basicBody.eq_3, read]
  have shorter : rest.length ≤ (letter :: tail ++ rest).length := by
    rw [List.length_append]
    exact Nat.le_add_left _ _
  simp only [if_pos shorter]

theorem basicBody_escaped (text rest : List Char) :
    basicBody (basicEscaped text ++ '"' :: rest) = some (text, rest) := by
  induction text with
  | nil => exact basicBody.eq_2 rest
  | cons c later ih =>
      rw [basicEscaped, List.flatMap_cons, List.append_assoc, ← basicEscaped]
      split_ifs with special
      · rw [basicBody_escapeOf (toNat_lt_of_escaped special), ih]
        rfl
      · simp only [alwaysEscaped, Bool.or_eq_true, Bool.and_eq_true, decide_eq_true_eq, bne_iff_ne, not_or,
          not_and, Decidable.not_not] at special
        obtain ⟨⟨⟨⟨control, -⟩, slash⟩, quote⟩, line⟩ := special
        have plain : ¬ isControl c = true := fun is => line (control is)
        rw [List.singleton_append, basicBody.eq_4 c _ quote slash, if_neg plain, ih]
        rfl

theorem literalBody_append (plain : ∀ c ∈ text, c ≠ '\'' ∧ isControl c = false) (rest : List Char) :
    literalBody (text ++ '\'' :: rest) = some (text, rest) := by
  induction text with
  | nil => rfl
  | cons c later ih =>
      obtain ⟨quote, control⟩ := plain c List.mem_cons_self
      rw [List.cons_append, literalBody.eq_3 c _ quote, control,
        ih fun d member => plain d (List.mem_cons_of_mem _ member)]
      rfl

end Lines

/-! ## Several lines -/

theorem dropNewline?_of_ne {c : Char} (line : c ≠ '\n') (carriage : c ≠ '\r') (rest : List Char) :
    dropNewline? (c :: rest) = none := by
  unfold dropNewline?
  split <;> simp_all

theorem ne_carriage {c : Char} (fits : isControl c = true → c = '\n') : c ≠ '\r' := by
  rintro rfl
  exact absurd (fits (by decide)) (by decide)

/-! ### Quotes in a row -/

theorem le_longestRun (quote : Char) (run : Nat) (text : List Char) : run ≤ longestRun quote run text := by
  induction text generalizing run with
  | nil => exact Nat.le_refl _
  | cons c rest ih =>
      rw [longestRun]
      split_ifs
      · exact Nat.le_trans (Nat.le_succ run) (ih (run + 1))
      · exact Nat.le_max_left _ _

theorem three_le_longestRun {quote : Char} {text : List Char} (three : [quote, quote, quote] <:+: text)
    (run : Nat) : 3 ≤ longestRun quote run text := by
  obtain ⟨before, after, rfl⟩ := three
  induction before generalizing run with
  | nil =>
      have long := le_longestRun quote (run + 1 + 1 + 1) after
      simp only [List.nil_append, List.cons_append, longestRun, if_pos]
      omega
  | cons c rest ih =>
      simp only [List.cons_append, longestRun]
      split_ifs
      · exact ih (run + 1)
      · exact Nat.le_trans (ih 0) (Nat.le_max_right _ _)

section Quotes

variable {quote : Char} {rest : List Char}

def NoQuote (quote : Char) (rest : List Char) : Prop :=
  rest.head? ≠ some quote

theorem NoQuote.cons {c : Char} (different : c ≠ quote) (rest : List Char) : NoQuote quote (c :: rest) :=
  fun same => different (Option.some.inj same)

theorem quotesBeforeEnd_none (ends : NoQuote quote rest) : quotesBeforeEnd quote rest = ([], rest) := by
  unfold quotesBeforeEnd
  split
  · next c d later =>
    have different : c ≠ quote := by simpa [NoQuote] using ends
    rw [if_neg different]
  · next c =>
    have different : c ≠ quote := by simpa [NoQuote] using ends
    rw [if_neg different]
  · rfl

theorem quotesBeforeEnd_one (ends : NoQuote quote rest) :
    quotesBeforeEnd quote (quote :: rest) = ([quote], rest) := by
  cases rest with
  | nil => rw [quotesBeforeEnd, if_pos rfl]
  | cons c later =>
      have different : c ≠ quote := by simpa [NoQuote] using ends
      rw [quotesBeforeEnd, if_pos rfl, if_neg different]

theorem quotesBeforeEnd_two (rest : List Char) :
    quotesBeforeEnd quote (quote :: quote :: rest) = ([quote, quote], rest) := by
  rw [quotesBeforeEnd, if_pos rfl, if_pos rfl]

end Quotes

/-! ### Literal text -/

section LiteralLines

variable {text rest : List Char}

theorem literalLines_cons {c : Char} (goesOn : ∀ later, c = '\'' → rest = '\'' :: '\'' :: later → False)
    (fits : isControl c = true → c = '\n') :
    literalLines (c :: rest) = (literalLines rest).map fun (body, left) => (c :: body, left) := by
  rw [literalLines.eq_3 c rest goesOn]
  by_cases line : c = '\n'
  · subst line
    simp [dropNewline?]
  · have plain : ¬ isControl c = true := fun control => line (fits control)
    rw [dropNewline?_of_ne line (ne_carriage fits)]
    simp only [if_neg plain]

theorem literalLines_append (fits : ∀ c ∈ text, isControl c = true → c = '\n')
    (runs : ¬ ['\'', '\'', '\''] <:+: text) (ends : NoQuote '\'' rest) :
    literalLines (text ++ '\'' :: '\'' :: '\'' :: rest) = some (text, rest) := by
  induction text with
  | nil => rw [List.nil_append, literalLines.eq_2, quotesBeforeEnd_none ends]
  | cons c later ih =>
      have next := ih (fun d member => fits d (List.mem_cons_of_mem _ member))
        fun three => runs (three.trans (List.suffix_cons c later).isInfix)
      have goes (goesOn : ∀ ending, c = '\'' →
          later ++ '\'' :: '\'' :: '\'' :: rest = '\'' :: '\'' :: ending → False) :
          literalLines (c :: later ++ '\'' :: '\'' :: '\'' :: rest) = some (c :: later, rest) := by
        rw [List.cons_append, literalLines_cons goesOn (fits c List.mem_cons_self), next]
        rfl
      by_cases quote : c = '\''
      · subst quote
        -- Three quotes from here on can only be those that close the text.
        cases later with
        | nil => rw [List.singleton_append, literalLines.eq_2, quotesBeforeEnd_one ends]
        | cons d more =>
            cases more with
            | nil =>
                by_cases second : d = '\''
                · rw [second, List.cons_append, List.singleton_append, literalLines.eq_2, quotesBeforeEnd_two]
                · exact goes fun _ _ same => second (List.cons.inj same).1
            | cons e others =>
                refine goes fun _ _ same => runs ⟨[], others, ?_⟩
                obtain ⟨second, same⟩ := List.cons.inj same
                rw [second, (List.cons.inj same).1]
                rfl
      · exact goes fun _ same => absurd same quote

end LiteralLines

/-! ### Basic text -/

section BasicLines

variable {text rest : List Char}

theorem basicLines_escapeOf {c : Char} (small : c.toNat < 128) (rest : List Char) :
    basicLines (escapeOf c ++ rest) = (basicLines rest).map fun (body, left) => (c :: body, left) := by
  obtain ⟨letter, tail, written, noBreak, read⟩ := exists_escape small
  have shorter : rest.length ≤ (letter :: tail ++ rest).length := by
    rw [List.length_append]
    exact Nat.le_add_left _ _
  have unbroken : skipLineBreak? (letter :: tail ++ rest) = none := by
    simp only [List.mem_cons, List.not_mem_nil, or_false, not_or] at noBreak
    obtain ⟨space, tab, line, carriage⟩ := noBreak
    have first : isSpace letter = false := by simp [isSpace, space, tab]
    rw [List.cons_append, skipLineBreak?, skipSpaces, List.dropWhile_cons_of_neg (by simp [first]),
      dropNewline?_of_ne line carriage, Option.map_none]
  rw [written, List.cons_append, basicLines.eq_3, unbroken, read]
  simp only [if_pos shorter]

theorem basicLines_cons {c : Char} (goesOn : ∀ later, c = '"' → rest = '"' :: '"' :: later → False)
    (slash : c ≠ '\\') (fits : isControl c = true → c = '\n') :
    basicLines (c :: rest) = (basicLines rest).map fun (body, left) => (c :: body, left) := by
  rw [basicLines.eq_4 c rest goesOn slash]
  by_cases line : c = '\n'
  · subst line
    simp [dropNewline?]
  · have plain : ¬ isControl c = true := fun control => line (fits control)
    rw [dropNewline?_of_ne line (ne_carriage fits)]
    simp only [if_neg plain]

theorem head_basicLinesEscaped {quotes : Nat} {c : Char} (bare : c = '"' → 2 ≤ quotes) (later : List Char) :
    ∃ first others, basicLinesEscaped quotes (c :: later) = first :: others ∧ first ≠ '"' := by
  have escape (next : List Char) (small : c.toNat < 128) :
      ∃ first others, escapeOf c ++ next = first :: others ∧ first ≠ '"' := by
    obtain ⟨letter, tail, written, -⟩ := exists_escape small
    exact ⟨'\\', letter :: tail ++ next, by rw [written]; rfl, by decide⟩
  rw [basicLinesEscaped]
  split_ifs with quote few special
  · exact absurd (bare quote) (Nat.not_le.mpr few)
  · exact escape _ (by rw [quote]; decide)
  · exact escape _ (toNat_lt_of_alwaysEscaped special)
  · exact ⟨c, _, rfl, quote⟩

theorem basicLines_escaped (ends : NoQuote '"' rest) (quotes : Nat) :
    basicLines (basicLinesEscaped quotes text ++ '"' :: '"' :: '"' :: rest) = some (text, rest) := by
  induction text generalizing quotes with
  | nil => rw [basicLinesEscaped, List.nil_append, basicLines.eq_2, quotesBeforeEnd_none ends]
  | cons c later ih =>
      rw [basicLinesEscaped]
      split_ifs with quote few special
      · subst quote
        -- The quote belongs to the text unless three begin with it. As no more than two are left without a
        -- backslash, these are among the quotes that close the text, after one or two that belong to it.
        have goes (goesOn : ∀ ending, basicLinesEscaped (quotes + 1) later ++ '"' :: '"' :: '"' :: rest =
            '"' :: '"' :: ending → False) :
            basicLines ('"' :: basicLinesEscaped (quotes + 1) later ++ '"' :: '"' :: '"' :: rest) =
              some ('"' :: later, rest) := by
          rw [List.cons_append, basicLines_cons (fun ending _ => goesOn ending) (by decide) (by decide), ih]
          rfl
        cases later with
        | nil => rw [basicLinesEscaped, List.singleton_append, basicLines.eq_2, quotesBeforeEnd_one ends]
        | cons d more =>
            by_cases bare : d = '"' → 2 ≤ quotes + 1
            · obtain ⟨first, others, written, other⟩ := head_basicLinesEscaped bare more
              rw [written] at goes ⊢
              exact goes fun _ same => other (List.cons.inj same).1
            · obtain ⟨rfl, one⟩ := Classical.not_imp.mp bare
              have second : basicLinesEscaped (quotes + 1) ('"' :: more) =
                  '"' :: basicLinesEscaped (quotes + 2) more := by
                rw [basicLinesEscaped, if_pos rfl, if_pos (Nat.not_le.mp one)]
              rw [second] at goes ⊢
              cases more with
              | nil =>
                  rw [basicLinesEscaped, List.cons_append, List.singleton_append, basicLines.eq_2,
                    quotesBeforeEnd_two]
              | cons e ending =>
                  have enough : 2 ≤ quotes + 2 := Nat.le_add_left 2 quotes
                  obtain ⟨first, others, written, other⟩ := head_basicLinesEscaped (fun _ => enough) ending
                  rw [written] at goes ⊢
                  refine goes fun _ same => other ?_
                  exact (List.cons.inj (List.cons.inj same).2).1
      · have small : c.toNat < 128 := by rw [quote]; decide
        rw [List.append_assoc, basicLines_escapeOf small, ih]
        rfl
      · rw [List.append_assoc, basicLines_escapeOf (toNat_lt_of_alwaysEscaped special), ih]
        rfl
      · simp only [alwaysEscaped, Bool.or_eq_true, Bool.and_eq_true, decide_eq_true_eq, bne_iff_ne, not_or,
          not_and, Decidable.not_not] at special
        obtain ⟨⟨line, -⟩, slash⟩ := special
        rw [List.cons_append, basicLines_cons (fun _ same => absurd same quote) slash line, ih]
        rfl

end BasicLines

/-! ## The quoting of a text -/

def Quoting.Holds (text : List Char) : Quoting → Prop
  | .basic => True
  | .literal => ∀ c ∈ text, c ≠ '\'' ∧ isControl c = false
  | .basicLines => True
  | .literalLines => (∀ c ∈ text, isControl c = true → c = '\n') ∧ ¬ ['\'', '\'', '\''] <:+: text

theorem hasControl_eq_false_iff {text : List Char} :
    hasControl text = false ↔ ∀ c ∈ text, isControl c = true → c = '\n' := by
  simp [hasControl]

theorem literal_holds {text : List Char} (fits : hasControl text = false) (line : '\n' ∉ text)
    (quote : '\'' ∉ text) : Quoting.literal.Holds text := by
  intro c member
  refine ⟨fun same => quote (same ▸ member), Bool.eq_false_iff.mpr fun control => line ?_⟩
  exact hasControl_eq_false_iff.mp fits c member control ▸ member

theorem textQuoting_holds (text : List Char) : (textQuoting text).Holds text := by
  unfold textQuoting
  dsimp only
  split_ifs with plain literal basicLines literalLines lineBreak
  · trivial
  · simp only [Bool.and_eq_true, Bool.not_eq_true', List.contains_eq_mem, decide_eq_false_iff_not] at literal
    obtain ⟨⟨fits, quote⟩, line⟩ := literal
    exact literal_holds fits line quote
  · trivial
  · simp only [Bool.and_eq_true, Bool.not_eq_true', decide_eq_true_eq] at literalLines
    obtain ⟨fits, few⟩ := literalLines
    exact ⟨hasControl_eq_false_iff.mp fits, fun three => by
      have many := three_le_longestRun three 0
      omega⟩
  · trivial
  · trivial

theorem nameQuoting_cases (text : List Char) :
    nameQuoting text = .basic ∨ nameQuoting text = .literal ∧ Quoting.literal.Holds text := by
  unfold nameQuoting
  dsimp only
  split_ifs with plain literal
  · exact .inl rfl
  · simp only [Bool.and_eq_true, Bool.not_eq_true', Bool.or_eq_false_iff, List.contains_eq_mem,
      decide_eq_false_iff_not] at literal
    obtain ⟨⟨fits, line⟩, quote⟩ := literal
    exact .inr ⟨rfl, literal_holds fits line quote⟩
  · exact .inl rfl

/-! ## Text in quotes -/

section Written

variable {text rest : List Char}

theorem basicEscaped_append_ne (ends : NoQuote '"' rest) (later : List Char) :
    basicEscaped text ++ '"' :: rest ≠ '"' :: '"' :: later := by
  intro same
  cases text with
  | nil =>
      obtain ⟨-, rfl⟩ := List.cons.inj same
      exact ends rfl
  | cons c others =>
      rw [basicEscaped, List.flatMap_cons] at same
      split_ifs at same with special
      · obtain ⟨letter, tail, written, -⟩ := exists_escape (toNat_lt_of_escaped special)
        rw [written] at same
        exact absurd (List.cons.inj same).1 (by decide)
      · simp only [Bool.or_eq_true, decide_eq_true_eq, not_or] at special
        exact special.1.2 (List.cons.inj same).1

theorem literal_append_ne (plain : Quoting.literal.Holds text) (ends : NoQuote '\'' rest)
    (later : List Char) : text ++ '\'' :: rest ≠ '\'' :: '\'' :: later := by
  intro same
  cases text with
  | nil =>
      obtain ⟨-, rfl⟩ := List.cons.inj same
      exact ends rfl
  | cons c others => exact (plain c List.mem_cons_self).1 (List.cons.inj same).1

theorem dropNewline?_basicLinesEscaped (unbroken : '\n' ∉ text) (rest : List Char) :
    dropNewline? (basicLinesEscaped 0 text ++ '"' :: rest) = none := by
  have escape {c : Char} (small : c.toNat < 128) (next : List Char) :
      dropNewline? (escapeOf c ++ next) = none := by
    obtain ⟨letter, tail, written, -⟩ := exists_escape small
    rw [written]
    exact dropNewline?_of_ne (by decide) (by decide) _
  cases text with
  | nil => exact dropNewline?_of_ne (by decide) (by decide) rest
  | cons c later =>
      rw [basicLinesEscaped]
      split_ifs with quote few special
      · rw [quote]
        exact dropNewline?_of_ne (by decide) (by decide) _
      · exact absurd Nat.zero_lt_two few
      · rw [List.append_assoc]
        exact escape (toNat_lt_of_alwaysEscaped special) _
      · have line : c ≠ '\n' := fun same => unbroken (same ▸ List.mem_cons_self)
        have plain : c ≠ '\r' := by
          rintro rfl
          exact special (by decide)
        exact dropNewline?_of_ne line plain _

theorem dropNewline?_literal (fits : ∀ c ∈ text, isControl c = true → c = '\n') (unbroken : '\n' ∉ text)
    (rest : List Char) : dropNewline? (text ++ '\'' :: rest) = none := by
  cases text with
  | nil => exact dropNewline?_of_ne (by decide) (by decide) rest
  | cons c later =>
      have line : c ≠ '\n' := fun same => unbroken (same ▸ List.mem_cons_self)
      exact dropNewline?_of_ne line (ne_carriage (fits c List.mem_cons_self)) _

theorem skipNewline_openingBreak {body : List Char} (unbroken : '\n' ∉ text → dropNewline? body = none) :
    skipNewline (openingBreak text ++ body) = body := by
  unfold openingBreak skipNewline
  split_ifs with line
  · rfl
  · rw [List.nil_append, unbroken (by simpa using line)]
    rfl

theorem quotedText_writeQuoted {quoting : Quoting} (holds : quoting.Holds text) (basic : NoQuote '"' rest)
    (literal : NoQuote '\'' rest) : quotedText (writeQuoted quoting text ++ rest) = some (text, rest) := by
  cases quoting with
  | basic =>
      have single : writeQuoted .basic text ++ rest = '"' :: (basicEscaped text ++ '"' :: rest) := by
        simp [writeQuoted]
      have one (later : List Char) : '"' :: (basicEscaped text ++ '"' :: rest) ≠ '"' :: '"' :: '"' :: later :=
        fun same => basicEscaped_append_ne basic later (List.cons.inj same).2
      rw [single, quotedText.eq_3 _ one fun _ same => absurd (List.cons.inj same).1 (by decide)]
      exact basicBody_escaped text rest
  | literal =>
      have single : writeQuoted .literal text ++ rest = '\'' :: (text ++ '\'' :: rest) := by
        simp [writeQuoted]
      have one (later : List Char) : '\'' :: (text ++ '\'' :: rest) ≠ '\'' :: '\'' :: '\'' :: later :=
        fun same => literal_append_ne holds literal later (List.cons.inj same).2
      rw [single, quotedText.eq_3 _ (fun _ same => absurd (List.cons.inj same).1 (by decide)) one]
      exact literalBody_append holds rest
  | basicLines =>
      have several : writeQuoted .basicLines text ++ rest =
          '"' :: '"' :: '"' :: (openingBreak text ++
            (basicLinesEscaped 0 text ++ '"' :: '"' :: '"' :: rest)) := by
        simp [writeQuoted]
      rw [several, quotedText.eq_1,
        skipNewline_openingBreak fun unbroken => dropNewline?_basicLinesEscaped unbroken _]
      exact basicLines_escaped basic 0
  | literalLines =>
      have several : writeQuoted .literalLines text ++ rest =
          '\'' :: '\'' :: '\'' :: (openingBreak text ++ (text ++ '\'' :: '\'' :: '\'' :: rest)) := by
        simp [writeQuoted]
      obtain ⟨fits, few⟩ := holds
      rw [several, quotedText.eq_2,
        skipNewline_openingBreak fun unbroken => dropNewline?_literal fits unbroken _]
      exact literalLines_append fits few literal

end Written

/-! ## Names -/

def NotBare (rest : List Char) : Prop :=
  ∀ c ∈ rest.head?, isBareChar c = false

theorem NotBare.cons {c : Char} (special : isBareChar c = false) (rest : List Char) : NotBare (c :: rest) :=
  fun _ first => Option.some.inj first ▸ special

theorem takeWhile_isBareChar {rest : List Char} (ends : NotBare rest) : rest.takeWhile isBareChar = [] := by
  cases rest with
  | nil => rfl
  | cons c later => rw [List.takeWhile_cons, ends c rfl, if_neg Bool.false_ne_true]

theorem dropWhile_isBareChar {rest : List Char} (ends : NotBare rest) : rest.dropWhile isBareChar = rest := by
  cases rest with
  | nil => rfl
  | cons c later => rw [List.dropWhile_cons, ends c rfl, if_neg Bool.false_ne_true]

theorem name_bare {text rest : List Char} (nonempty : text ≠ []) (bare : ∀ c ∈ text, isBareChar c = true)
    (ends : NotBare rest) : name (text ++ rest) = some (String.ofList text, rest) := by
  have unquoted {quote : Char} (special : isBareChar quote = false) (later : List Char) :
      text ++ rest ≠ quote :: later := by
    intro same
    obtain ⟨c, others, rfl⟩ := List.exists_cons_of_ne_nil nonempty
    obtain ⟨rfl, -⟩ := List.cons.inj same
    exact Bool.noConfusion (special.symm.trans (bare c List.mem_cons_self))
  have front : (text ++ rest).takeWhile isBareChar = text := by
    rw [List.takeWhile_append_of_pos bare, takeWhile_isBareChar ends, List.append_nil]
  have back : (text ++ rest).dropWhile isBareChar = rest := by
    rw [List.dropWhile_append_of_pos bare, dropWhile_isBareChar ends]
  rw [name.eq_3 _ (unquoted (by decide)) (unquoted (by decide)), front, back, if_neg (by simpa using nonempty)]

theorem name_writeName (text : String) {rest : List Char} (ends : NotBare rest) :
    name ((writeName text).toList ++ rest) = some (text, rest) := by
  unfold writeName
  dsimp only
  split_ifs with bare
  · simp only [Bool.and_eq_true, Bool.not_eq_true', List.isEmpty_eq_false_iff, List.all_eq_true] at bare
    rw [name_bare bare.1 bare.2 ends, String.ofList_toList]
  · rw [String.toList_ofList]
    obtain basic | ⟨literal, plain⟩ := nameQuoting_cases text.toList
    · have single : writeQuoted .basic text.toList ++ rest =
          '"' :: (basicEscaped text.toList ++ '"' :: rest) := by
        simp [writeQuoted]
      rw [basic, single, name.eq_1, basicBody_escaped]
      simp
    · have single : writeQuoted .literal text.toList ++ rest = '\'' :: (text.toList ++ '\'' :: rest) := by
        simp [writeQuoted]
      rw [literal, single, name.eq_2, literalBody_append plain]
      simp

end GlobalHotkeys.Toml
