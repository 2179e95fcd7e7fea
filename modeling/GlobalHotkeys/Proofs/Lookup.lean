import Mathlib.Data.List.Basic

namespace GlobalHotkeys

variable {α β : Type} [BEq α] [LawfulBEq α] {entries : List (α × β)} {key other : α} {value : β}

theorem mem_of_lookup (found : entries.lookup key = some value) : (key, value) ∈ entries := by
  obtain ⟨before, behind, rfl, -⟩ := List.lookup_eq_some_iff.mp found
  simp

variable [DecidableEq α]

theorem lookup_cons_if (other : α) (value : β) (rest : List (α × β)) (key : α) :
    ((other, value) :: rest).lookup key = if key = other then some value else rest.lookup key := by
  rw [List.lookup_cons]
  split_ifs with own
  · rw [beq_iff_eq.mpr own]
  · rw [beq_false_of_ne own]

theorem lookup_filter :
    (entries.filter (·.1 != other)).lookup key = if other = key then none else entries.lookup key := by
  induction entries with
  | nil => simp
  | cons entry rest ih =>
      obtain ⟨first, held⟩ := entry
      by_cases dropped : first = other
      · rw [List.filter_cons_of_neg (by simpa using dropped), ih, lookup_cons_if, dropped]
        split_ifs with mine own
        · rfl
        · exact absurd own.symm mine
        · rfl
      · rw [List.filter_cons_of_pos (by simpa using dropped), lookup_cons_if, ih, lookup_cons_if]
        split_ifs with own mine
        · exact absurd (own.symm.trans mine.symm) dropped
        all_goals rfl

theorem lookup_replaced :
    (entries.map fun entry => if entry.1 = other then (other, value) else entry).lookup key =
      if other = key then (entries.lookup key).map fun _ => value else entries.lookup key := by
  induction entries with
  | nil => simp
  | cons entry rest ih =>
      obtain ⟨first, held⟩ := entry
      rw [List.map_cons, lookup_cons_if]
      by_cases replaced : first = other
      · subst replaced
        rw [if_pos rfl, lookup_cons_if, ih]
        by_cases mine : first = key
        · rw [if_pos mine, if_pos mine, if_pos mine.symm, if_pos mine.symm, Option.map_some]
        · rw [if_neg mine, if_neg mine, if_neg (Ne.symm mine), if_neg (Ne.symm mine)]
      · rw [if_neg replaced, lookup_cons_if, ih]
        by_cases mine : other = key
        · have passed : key ≠ first := fun own => replaced (own.symm.trans mine.symm)
          rw [if_pos mine, if_pos mine, if_neg passed, if_neg passed]
        · rw [if_neg mine, if_neg mine]

end GlobalHotkeys
