import GlobalHotkeys.Text.Basic

namespace GlobalHotkeys.Text

theorem not_mem_of_mem_splitChars {separator : Char} {text piece : List Char}
    (member : piece ∈ splitChars separator text) : separator ∉ piece := by
  induction text generalizing piece with
  | nil => simp_all [splitChars]
  | cons c rest ih =>
      unfold splitChars at member
      split at member
      · rcases List.mem_cons.mp member with rfl | later
        · exact List.not_mem_nil
        · exact ih later
      · next different =>
        split at member
        · next none => exact absurd none (splitChars_ne_nil separator rest)
        · next first others found =>
          rw [found] at ih
          rcases List.mem_cons.mp member with rfl | later
          · rw [List.mem_cons, not_or]
            exact ⟨fun same => different same.symm, ih List.mem_cons_self⟩
          · exact ih (List.mem_cons_of_mem _ later)

theorem splitChars_of_not_mem {separator : Char} {piece : List Char} (clean : separator ∉ piece) :
    splitChars separator piece = [piece] := by
  induction piece with
  | nil => rfl
  | cons c rest ih =>
      rw [List.mem_cons, not_or] at clean
      rw [splitChars, if_neg (Ne.symm clean.1), ih clean.2]

theorem splitChars_append_cons {separator : Char} {piece : List Char} (clean : separator ∉ piece)
    (rest : List Char) :
    splitChars separator (piece ++ separator :: rest) = piece :: splitChars separator rest := by
  induction piece with
  | nil => simp [splitChars]
  | cons c piece ih =>
      rw [List.mem_cons, not_or] at clean
      rw [List.cons_append, splitChars, if_neg (Ne.symm clean.1), ih clean.2]

theorem splitChars_append_separator (separator : Char) (text rest : List Char) :
    splitChars separator (text ++ separator :: rest) =
      splitChars separator text ++ splitChars separator rest := by
  induction text with
  | nil => simp [splitChars]
  | cons c text ih =>
      have pieces := splitChars_ne_nil separator text
      simp only [List.cons_append, splitChars, ih]
      split
      · rfl
      · cases cut : splitChars separator text with
        | nil => exact absurd cut pieces
        | cons piece others => rfl

theorem splitChars_intercalate {separator : Char} {pieces : List (List Char)} (nonempty : pieces ≠ [])
    (clean : ∀ piece ∈ pieces, separator ∉ piece) :
    splitChars separator ([separator].intercalate pieces) = pieces := by
  induction pieces with
  | nil => exact absurd rfl nonempty
  | cons piece rest ih =>
      have first := clean piece List.mem_cons_self
      cases rest with
      | nil => simpa using splitChars_of_not_mem first
      | cons next others =>
          have others := ih (by simp) fun other later => clean other (List.mem_cons_of_mem _ later)
          rw [List.intercalate_cons_cons, List.append_assoc, List.singleton_append,
            splitChars_append_cons first, others]

theorem split_join {separator : Char} {pieces : List String} (nonempty : pieces ≠ [])
    (clean : ∀ piece ∈ pieces, separator ∉ piece.toList) :
    split separator (join (String.singleton separator) pieces) = pieces := by
  have cut : splitChars separator ([separator].intercalate (pieces.map String.toList)) =
      pieces.map String.toList :=
    splitChars_intercalate (by simpa using nonempty) (by simpa using clean)
  rw [split, join, String.toList_intercalate, String.toList_singleton, cut, List.map_map]
  simp [Function.comp_def]

theorem not_mem_of_mem_split {separator : Char} {text piece : String}
    (member : piece ∈ split separator text) : separator ∉ piece.toList := by
  obtain ⟨chars, inPieces, rfl⟩ := List.mem_map.mp member
  simpa using not_mem_of_mem_splitChars inPieces

theorem split_append_separator {separator : Char} (text : String) {piece : String}
    (clean : separator ∉ piece.toList) :
    split separator (text ++ String.singleton separator ++ piece) = split separator text ++ [piece] := by
  simp only [split, String.toList_append, String.toList_singleton, List.append_assoc,
    List.singleton_append, splitChars_append_separator, splitChars_of_not_mem clean, List.map_append,
    List.map_singleton, String.ofList_toList]

end GlobalHotkeys.Text
