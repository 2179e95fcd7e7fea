import GlobalHotkeys.Proofs.Toml.Quoting
import GlobalHotkeys.Toml.Reader

/-!
# Documents of named texts are read back

A document that is written header by header, each one opening a table inside of the one before, and entry by
entry is read as the tables that it was written from.
-/

namespace GlobalHotkeys.Toml

section Entries

variable {name : String} {before : Entries}

theorem updateEntry_append (absent : name ∉ before.map (·.1)) (update : Option Value → Option Value)
    (rest : Entries) :
    updateEntry name update (before ++ rest) = (updateEntry name update rest).map (before ++ ·) := by
  induction before with
  | nil => exact Option.map_id'.symm
  | cons entry others ih =>
      simp only [List.map_cons, List.mem_cons, not_or] at absent
      rw [List.cons_append, updateEntry, if_neg (Ne.symm absent.1), ih absent.2, Option.map_map]
      rfl

theorem updateEntry_of_notMem (absent : name ∉ before.map (·.1)) (update : Option Value → Option Value) :
    updateEntry name update before = (update none).map fun value => before ++ [(name, value)] := by
  have added := updateEntry_append absent update []
  rwa [List.append_nil, updateEntry, Option.map_map] at added

theorem updateEntry_last (absent : name ∉ before.map (·.1)) (old : Value)
    (update : Option Value → Option Value) :
    updateEntry name update (before ++ [(name, old)]) =
      (update (some old)).map fun value => before ++ [(name, value)] := by
  rw [updateEntry_append absent, updateEntry, if_pos rfl, Option.map_map]
  rfl

end Entries

structure Place where
  before : Entries
  name : String
  fresh : name ∉ before.map (·.1)

/-- The entries of a document whose places lead, from the outermost on, to a table with these entries. -/
def fill : List Place → Entries → Entries
  | [], inner => inner
  | place :: rest, inner => place.before ++ [(place.name, .table .header (fill rest inner))]

theorem fill_append (places : List Place) (place : Place) (inner : Entries) :
    fill (places ++ [place]) inner =
      fill places (place.before ++ [(place.name, .table .header inner)]) := by
  induction places with
  | nil => rfl
  | cons first rest ih => rw [List.cons_append, fill, fill, ih]

theorem changeAt_fill (places : List Place) (change : Change) (inner : Entries) :
    changeAt false (places.map Place.name) change .header (fill places inner) =
      (change .header inner).map (fill places) := by
  induction places with
  | nil => exact Option.map_id'.symm
  | cons place rest ih =>
      rw [List.map_cons, changeAt, fill]
      dsimp only
      rw [updateEntry_last place.fresh]
      simp only [Bool.false_and, Bool.false_eq_true, if_false, ih, Option.map_map]
      rfl

def within (places : List Place) (inner : Entries) : Draft where
  entries := fill places inner
  header := places.map Place.name

theorem within_add {inner : Entries} {name : String} (fresh : name ∉ inner.map (·.1)) (places : List Place)
    (value : Value) :
    (within places inner).add [] name value = some (within places (inner ++ [(name, value)])) := by
  have added : addDotted [] name value .header inner = some (inner ++ [(name, value)]) :=
    updateEntry_of_notMem fresh _
  rw [Draft.add, within, changeAt_fill, added]
  rfl

theorem within_enter (places : List Place) (place : Place) :
    (within places place.before).enter (places.map Place.name) place.name beginTable =
      some (within (places ++ [place]) []) := by
  have begun : beginTable place.name .header place.before =
      some (place.before ++ [(place.name, .table .header [])]) :=
    updateEntry_of_notMem place.fresh _
  rw [Draft.enter, within, changeAt_fill, begun, within, fill_append, List.map_append]
  rfl

def BeginsName (first : Char) : Prop :=
  isBareChar first = true ∨ first = '"' ∨ first = '\''

instance : DecidablePred BeginsName := fun _ => inferInstanceAs (Decidable (_ ∨ _ ∨ _))

theorem BeginsName.ne {first other : Char} (begins : BeginsName first) (never : ¬ BeginsName other) :
    first ≠ other :=
  fun same => never (same ▸ begins)

theorem exists_beginsName (text : String) :
    ∃ first later, (writeName text).toList = first :: later ∧ BeginsName first := by
  unfold writeName
  dsimp only
  split_ifs with bare
  · simp only [Bool.and_eq_true, Bool.not_eq_true', List.isEmpty_eq_false_iff, List.all_eq_true] at bare
    obtain ⟨first, later, written⟩ := List.exists_cons_of_ne_nil bare.1
    exact ⟨first, later, written, .inl (bare.2 first (written ▸ List.mem_cons_self))⟩
  · rw [String.toList_ofList]
    obtain basic | ⟨literal, -⟩ := nameQuoting_cases text.toList
    · exact ⟨'"', basicEscaped text.toList ++ ['"'], by rw [basic]; rfl, .inr (.inl rfl)⟩
    · exact ⟨'\'', text.toList ++ ['\''], by rw [literal]; rfl, .inr (.inr rfl)⟩

theorem skipSpaces_of_ne {c : Char} (space : c ≠ ' ') (tab : c ≠ '\t') (rest : List Char) :
    skipSpaces (c :: rest) = c :: rest := by
  rw [skipSpaces, List.dropWhile_cons_of_neg (by simp [isSpace, space, tab])]

theorem skipSpaces_writeName (text : String) (rest : List Char) :
    skipSpaces ((writeName text).toList ++ rest) = (writeName text).toList ++ rest := by
  obtain ⟨first, later, written, begins⟩ := exists_beginsName text
  rw [written]
  exact skipSpaces_of_ne (begins.ne (by decide)) (begins.ne (by decide)) _

theorem names_last (text : String) {rest later : List Char} {stop : Char} (ends : NotBare rest)
    (next : skipSpaces rest = stop :: later) (other : stop ≠ '.') :
    names ((writeName text).toList ++ rest) = some ([text], stop :: later) := by
  rw [names, skipSpaces_writeName, name_writeName text ends]
  dsimp only
  rw [next]
  split
  · next more dotted => exact absurd (List.cons.inj dotted).1 other
  · rfl

theorem names_dot (text : String) (more : List Char) :
    names ((writeName text).toList ++ '.' :: more) =
      (names more).map fun (others, left) => (text :: others, left) := by
  have ends : NotBare ('.' :: more) := .cons (by decide) more
  have shorter : more.length < ((writeName text).toList ++ '.' :: more).length := by
    rw [List.length_append, List.length_cons]
    omega
  rw [names, skipSpaces_writeName, name_writeName text ends]
  dsimp only
  rw [skipSpaces_of_ne (by decide) (by decide)]
  simp only [if_pos shorter]

def writeKey : List String → String → List Char
  | [], last => (writeName last).toList
  | first :: path, last => (writeName first).toList ++ '.' :: writeKey path last

theorem exists_beginsName_writeKey (path : List String) (last : String) :
    ∃ first later, writeKey path last = first :: later ∧ BeginsName first := by
  cases path with
  | nil => exact exists_beginsName last
  | cons name path =>
      obtain ⟨first, later, written, begins⟩ := exists_beginsName name
      exact ⟨first, later ++ '.' :: writeKey path last, by rw [writeKey, written]; rfl, begins⟩

section Keys

variable {rest later : List Char} {stop : Char}

theorem names_writeKey (path : List String) (last : String) (ends : NotBare rest)
    (next : skipSpaces rest = stop :: later) (other : stop ≠ '.') :
    names (writeKey path last ++ rest) = some (path ++ [last], stop :: later) := by
  induction path with
  | nil => exact names_last last ends next other
  | cons first path ih =>
      rw [writeKey, List.append_assoc, List.cons_append, names_dot, ih]
      rfl

theorem key_writeKey {path : List String} (few : path.length < maxNames) (last : String)
    (ends : NotBare rest) (next : skipSpaces rest = stop :: later) (other : stop ≠ '.') :
    key (writeKey path last ++ rest) = some ((path, last), stop :: later) := by
  simpa [key, names_writeKey path last ends next other] using Nat.succ_le_of_lt few

end Keys

theorem exists_quote (quoting : Quoting) (text : List Char) :
    ∃ quote later, writeQuoted quoting text = quote :: later ∧ (quote = '"' ∨ quote = '\'') := by
  cases quoting with
  | basic => exact ⟨'"', _, rfl, .inl rfl⟩
  | literal => exact ⟨'\'', _, rfl, .inr rfl⟩
  | basicLines => exact ⟨'"', _, rfl, .inl rfl⟩
  | literalLines => exact ⟨'\'', _, rfl, .inr rfl⟩

theorem plainValue_quote {quote : Char} (quotes : quote = '"' ∨ quote = '\'') (later : List Char) :
    plainValue (quote :: later) =
      (quotedText (quote :: later)).map fun (body, rest) => (.string (String.ofList body), rest) := by
  rcases quotes with rfl | rfl <;> rfl

theorem value_quote {quote : Char} (quotes : quote = '"' ∨ quote = '\'') (later : List Char) :
    value maxDepth (quote :: later) = plainValue (quote :: later) := by
  rcases quotes with rfl | rfl <;> rfl

theorem value_writeText (text : String) {rest : List Char} (basic : NoQuote '"' rest)
    (literal : NoQuote '\'' rest) :
    value maxDepth (skipSpaces ((writeText text).toList ++ rest)) = some (.string text, rest) := by
  have read := quotedText_writeQuoted (textQuoting_holds text.toList) basic literal
  obtain ⟨quote, later, written, quotes⟩ := exists_quote (textQuoting text.toList) text.toList
  have unspaced : skipSpaces (quote :: (later ++ rest)) = quote :: (later ++ rest) := by
    rcases quotes with rfl | rfl <;> rfl
  rw [writeText, String.toList_ofList]
  rw [written, List.cons_append] at read ⊢
  rw [unspaced, value_quote quotes, plainValue_quote quotes, read]
  simp

theorem assignment_writeEntry (name text : String) (rest : List Char) :
    assignment (value maxDepth) ((writeEntry name text).toList ++ rest) =
      some ((([], name), .string text), '\n' :: rest) := by
  have written : (writeEntry name text).toList ++ rest =
      writeKey [] name ++ ' ' :: '=' :: ' ' :: ((writeText text).toList ++ '\n' :: rest) := by
    simp [writeEntry, writeKey]
  have found (later : List Char) :
      key (writeKey [] name ++ ' ' :: '=' :: later) = some (([], name), '=' :: later) :=
    key_writeKey (by decide) name (.cons (by decide) _) rfl (by decide)
  have spaced (later : List Char) : skipSpaces (' ' :: later) = skipSpaces later := rfl
  have read : value maxDepth (skipSpaces ((writeText text).toList ++ '\n' :: rest)) =
      some (.string text, '\n' :: rest) :=
    value_writeText text (.cons (by decide) rest) (.cons (by decide) rest)
  rw [written, assignment, found]
  simp [dropChar, spaced, read]

theorem lines_newline (draft : Draft) (rest : List Char) : lines draft ('\n' :: rest) = lines draft rest := by
  rw [lines, skipSpaces_of_ne (by decide) (by decide)]
  simp [dropNewline?]

theorem lines_expression {draft after : Draft} {first : Char} {later rest : List Char}
    (blank : first ∉ [' ', '\t', '\n', '\r']) (read : expression draft (first :: later) = some (after, rest))
    (shorter : rest.length < (first :: later).length) :
    lines draft (first :: later) = lines after rest := by
  simp only [List.mem_cons, List.not_mem_nil, or_false, not_or] at blank
  obtain ⟨space, tab, line, carriage⟩ := blank
  rw [lines, skipSpaces_of_ne space tab]
  simp only [dropNewline?_of_ne line carriage, read, if_pos shorter]

theorem dropLineEnd?_newline (rest : List Char) : dropLineEnd? ('\n' :: rest) = some rest := by
  rw [dropLineEnd?, skipSpaces_of_ne (by decide) (by decide)]
  rfl

theorem lines_writeEntry {places : List Place} {inner : Entries} {name : String}
    (fresh : name ∉ inner.map (·.1)) (text : String) (rest : List Char) :
    lines (within places inner) ((writeEntry name text).toList ++ rest) =
      lines (within places (inner ++ [(name, Value.string text)])) rest := by
  have assigned := assignment_writeEntry name text rest
  obtain ⟨first, later, written, begins⟩ := exists_beginsName name
  obtain ⟨more, line⟩ : ∃ more, (writeEntry name text).toList = first :: more := by
    simp [writeEntry, written]
  rw [line, List.cons_append] at assigned ⊢
  have ne {other : Char} (never : ¬ BeginsName other) (behind : List Char) :
      first :: (more ++ rest) ≠ other :: behind :=
    fun same => begins.ne never (List.cons.inj same).1
  have blank : first ∉ [' ', '\t', '\n', '\r'] := by
    simp only [List.mem_cons, List.not_mem_nil, or_false, not_or]
    exact ⟨begins.ne (by decide), begins.ne (by decide), begins.ne (by decide), begins.ne (by decide)⟩
  have read : expression (within places inner) (first :: (more ++ rest)) =
      some (within places (inner ++ [(name, Value.string text)]), rest) := by
    rw [expression.eq_4 _ _ (ne (by decide)) (fun behind => ne (by decide) ('[' :: behind)) (ne (by decide)),
      assigned]
    simp [dropLineEnd?_newline, within_add fresh]
  refine lines_expression blank read ?_
  simp only [List.length_cons, List.length_append]
  omega

def writeEntries (entries : List (String × String)) : String :=
  String.join (entries.map fun (name, text) => writeEntry name text)

def texts (entries : List (String × String)) : Entries :=
  entries.map fun (name, text) => (name, .string text)

theorem lines_writeEntries {places : List Place} {inner : Entries} {entries : List (String × String)}
    (distinct : (inner.map (·.1) ++ entries.map (·.1)).Nodup) (rest : List Char) :
    lines (within places inner) ((writeEntries entries).toList ++ rest) =
      lines (within places (inner ++ texts entries)) rest := by
  induction entries generalizing inner with
  | nil => simp [writeEntries, texts]
  | cons entry more ih =>
      obtain ⟨name, text⟩ := entry
      have written : (writeEntries ((name, text) :: more)).toList ++ rest =
          (writeEntry name text).toList ++ ((writeEntries more).toList ++ rest) := by
        simp [writeEntries]
      have later : ((inner ++ [(name, Value.string text)]).map (·.1) ++ more.map (·.1)).Nodup := by
        simpa using distinct
      have fresh : name ∉ inner.map (·.1) := fun member =>
        (List.nodup_append.mp distinct).2.2 name member name List.mem_cons_self rfl
      rw [written, lines_writeEntry fresh, ih later, List.append_assoc]
      rfl

theorem lines_nil (draft : Draft) : lines draft [] = some draft := by
  rw [lines]
  rfl

theorem lines_header (places : List Place) (few : places.length < maxNames) (place : Place)
    (rest : List Char) :
    lines (within places place.before)
        ('[' :: (writeKey (places.map Place.name) place.name ++ ']' :: '\n' :: rest)) =
      lines (within (places ++ [place]) []) rest := by
  obtain ⟨first, later, written, begins⟩ := exists_beginsName_writeKey (places.map Place.name) place.name
  have found : key (writeKey (places.map Place.name) place.name ++ ']' :: '\n' :: rest) =
      some ((places.map Place.name, place.name), ']' :: '\n' :: rest) :=
    key_writeKey (by rwa [List.length_map]) place.name (.cons (by decide) _) rfl (by decide)
  have single (behind : List Char) :
      writeKey (places.map Place.name) place.name ++ ']' :: '\n' :: rest ≠ '[' :: behind := by
    rw [written]
    exact fun same => begins.ne (by decide) (List.cons.inj same).1
  have read : expression (within places place.before)
      ('[' :: (writeKey (places.map Place.name) place.name ++ ']' :: '\n' :: rest)) =
        some (within (places ++ [place]) [], rest) := by
    rw [expression.eq_3 _ _ single, tableHeader, found]
    simp [dropChar, dropLineEnd?_newline, within_enter]
  refine lines_expression (by decide) read ?_
  simp only [List.length_cons, List.length_append]
  omega

end GlobalHotkeys.Toml
