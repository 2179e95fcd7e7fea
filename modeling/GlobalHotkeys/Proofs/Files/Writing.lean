import GlobalHotkeys.Files.Tree
import GlobalHotkeys.Proofs.Lookup

namespace GlobalHotkeys

theorem exists_of_bind_eq_ok {ε α β : Type} {first : Except ε α} {next : α → Except ε β} {result : β}
    (done : first >>= next = .ok result) : ∃ value, first = .ok value ∧ next value = .ok result := by
  cases first with
  | error cause => cases done
  | ok value => exact ⟨value, rfl, done⟩

namespace FileTree

variable {tree : FileTree} {place : List String}

theorem entry?_put (below : place ≠ []) (entry : FileEntry) (other : List String) :
    FileTree.entry? (tree.put place entry) other = if place = other then some entry else tree.entry? other := by
  by_cases root : other = []
  · rw [if_neg (root ▸ below), root]
    rfl
  · have inside (tree : FileTree) : tree.entry? other = tree.entries.lookup other := by simp [ entry?, root]
    rw [inside, inside, put]
    split_ifs with present same same
    · obtain ⟨old, held⟩ := Option.isSome_iff_exists.mp present
      rw [same, inside] at held
      rw [lookup_replaced, if_pos same, held]
      rfl
    · rw [lookup_replaced, if_neg same]
    · rw [Option.not_isSome_iff_eq_none, same, inside] at present
      rw [List.lookup_append, present, same, lookup_cons_if, if_pos rfl]
      rfl
    · rw [List.lookup_append, lookup_cons_if, if_neg (Ne.symm same)]
      exact Option.or_none

theorem startOf_put (entry : FileEntry) (path : String) :
    (tree.put place entry).startOf path = tree.startOf path := by
  unfold put
  split_ifs <;> rfl

section Apart

variable (apart : tree.entry? place ≠ some .directory)

include apart

theorem ne_nil_of_apart : place ≠ [] := by
  rintro rfl
  exact apart rfl

theorem walk_put (entry : FileEntry) {start spot : List String} {parts : List String}
    (found : tree.walk start parts = .ok spot) : (tree.put place entry).walk start parts = .ok spot := by
  induction parts generalizing start with
  | nil => exact found
  | cons part rest ih =>
      unfold walk at found ⊢
      cases through : tree.entry? start with
      | none => simp [through] at found
      | some held =>
          cases held with
          | file file => simp [through] at found
          | directory =>
              -- Every place on the way is a directory, so none is the one where something is put.
              have other : place ≠ start := fun same => apart (same ▸ through)
              rw [through] at found
              rw [entry?_put (ne_nil_of_apart apart), if_neg other, through]
              dsimp only at found ⊢
              split_ifs at found ⊢
              all_goals exact ih found

theorem locate_put (entry : FileEntry) {path : String} {spot : List String}
    (found : tree.locate path = .ok spot) : (tree.put place entry).locate path = .ok spot := by
  unfold locate at found ⊢
  split_ifs at found ⊢
  rw [startOf_put]
  exact walk_put apart entry found

theorem find_put (entry : FileEntry) {path : String} (found : tree.locate path = .ok place) :
    (tree.put place entry).find path = .ok entry := by
  simp only [find, locate_put apart entry found, bind, Except.bind, entry?_put (ne_nil_of_apart apart), if_true]
  rfl

end Apart

theorem writeFile_eq_ok {path : String} {content : ByteArray} {after : FileTree}
    (written : tree.writeFile path content = .ok after) :
    ∃ place file, tree.locate path = .ok place ∧ tree.entry? place ≠ some .directory ∧
      file.content = content ∧ after = tree.put place (.file file) := by
  unfold writeFile at written
  obtain ⟨place, located, written⟩ := exists_of_bind_eq_ok written
  cases there : tree.entry? place with
  | none =>
      rw [there] at written
      obtain ⟨-, -, written⟩ := exists_of_bind_eq_ok written
      exact ⟨place, _, located, by simp [there], rfl, (Except.ok.inj written).symm⟩
  | some entry =>
      rw [there] at written
      cases entry with
      | directory => cases written
      | file old => exact ⟨place, _, located, by simp [there], rfl, (Except.ok.inj written).symm⟩

theorem readFile_writeFile {path : String} {content : ByteArray} {after : FileTree}
    (written : tree.writeFile path content = .ok after) :
    ∃ file, after.readFile path = .ok file ∧ file.content = content := by
  obtain ⟨place, file, located, apart, same, rfl⟩ := writeFile_eq_ok written
  refine ⟨file, ?_, same⟩
  rw [readFile, find_put apart _ located]
  rfl

theorem exists?_of_readFile {path : String} {file : File} (read : tree.readFile path = .ok file) :
    tree.exists? path = true := by
  unfold readFile at read
  obtain ⟨entry, found, -⟩ := exists_of_bind_eq_ok read
  rw [exists?, found]
  rfl

end FileTree

end GlobalHotkeys
