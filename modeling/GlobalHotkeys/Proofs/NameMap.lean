import GlobalHotkeys.NameMap
import Mathlib.Data.List.Nodup

namespace GlobalHotkeys.NameMap

variable {α : Type}

theorem exists_insertEntry {entries : List (String × α)} {name : String}
    (new : ∀ entry ∈ entries, entry.1 ≠ name) (value : α) :
    ∃ before later, entries = before ++ later ∧
      insertEntry name value entries = before ++ (name, value) :: later := by
  induction entries with
  | nil => exact ⟨[], [], rfl, rfl⟩
  | cons entry rest ih =>
      unfold insertEntry
      split_ifs with first same
      · exact ⟨[], _, rfl, rfl⟩
      · exact absurd same.symm (new entry List.mem_cons_self)
      · obtain ⟨before, later, split, inserted⟩ :=
          ih fun other member => new other (List.mem_cons_of_mem _ member)
        exact ⟨entry :: before, later, by simp [split], by simp [inserted]⟩

theorem insert_perm {map : NameMap α} {name : String} (new : name ∉ map.names) (value : α) :
    (map.insert name value).entries.Perm ((name, value) :: map.entries) := by
  have absent : ∀ entry ∈ map.entries, entry.1 ≠ name :=
    fun entry member same => new (List.mem_map.mpr ⟨entry, member, same⟩)
  obtain ⟨before, later, split, inserted⟩ := exists_insertEntry absent value
  change (insertEntry name value map.entries).Perm _
  rw [inserted, split]
  exact List.perm_middle

theorem ext_of_perm {first second : NameMap α} (perm : first.entries.Perm second.entries) : first = second := by
  have entries : first.entries = second.entries :=
    perm.eq_of_pairwise (fun _ _ _ _ below above => absurd (String.lt_trans below above) (String.lt_irrefl _))
      first.sorted second.sorted
  cases first
  cases second
  congr

theorem nodup_names (map : NameMap α) : map.names.Nodup := by
  refine List.pairwise_map.mpr (map.sorted.imp fun {first second} below same => ?_)
  exact String.lt_irrefl second.1 (same ▸ below)

theorem foldl_insert_perm {order : List (String × α)} (map : NameMap α)
    (distinct : (map.names ++ order.map (·.1)).Nodup) :
    (order.foldl (fun map entry => map.insert entry.1 entry.2) map).entries.Perm (map.entries ++ order) := by
  induction order generalizing map with
  | nil => simp
  | cons entry rest ih =>
      have new : entry.1 ∉ map.names := fun member =>
        (List.nodup_append.mp distinct).2.2 entry.1 member entry.1 List.mem_cons_self rfl
      have inserted := insert_perm new entry.2
      have names : (map.insert entry.1 entry.2).names.Perm (entry.1 :: map.names) := inserted.map Prod.fst
      have later : ((map.insert entry.1 entry.2).names ++ rest.map (·.1)).Nodup :=
        ((names.append_right _).trans List.perm_middle.symm).nodup_iff.mpr distinct
      calc (rest.foldl (fun map entry => map.insert entry.1 entry.2) (map.insert entry.1 entry.2)).entries
        _ |>.Perm ((map.insert entry.1 entry.2).entries ++ rest) := ih _ later
        _ |>.Perm (entry :: map.entries ++ rest) := inserted.append_right rest
        _ |>.Perm (map.entries ++ entry :: rest) := List.perm_middle.symm

theorem ofList_of_perm {order : List (String × α)} {map : NameMap α} (perm : order.Perm map.entries) :
    ofList order = map := by
  have distinct : (order.map (·.1)).Nodup := (perm.map Prod.fst).nodup_iff.mpr map.nodup_names
  exact ext_of_perm ((foldl_insert_perm empty distinct).trans perm)

theorem mapNames_congr {β γ : Type} {first : NameMap α} {second : NameMap β}
    (names : first.names = second.names) (value : String → γ) :
    first.mapNames value = second.mapNames value := by
  have named {δ : Type} (entries : List (String × δ)) :
      entries.map (fun entry => (entry.1, value entry.1)) =
        (entries.map (·.1)).map fun name => (name, value name) := by simp
  unfold mapNames
  congr 1
  rw [named, named]
  exact congrArg (List.map fun name => (name, value name)) names

end GlobalHotkeys.NameMap
