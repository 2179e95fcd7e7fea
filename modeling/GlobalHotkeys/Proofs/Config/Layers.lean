import GlobalHotkeys.Daemon.Basic

/-!
# Layers of settings

Each setting comes from the first layer that gives it: the command line, the environment, the file, and
last its usual value. Loading fails for a file that is there and gives no settings, and for a provider of
the environment that is none; what the command line says does not matter to that.
-/

namespace GlobalHotkeys

open Toml (Value)

/-- What a document gives for each setting, as far as it names it. -/
structure Given where
  startRecording : Option String := none
  provider : Option ProviderChoice := none
  actions : Option (NameMap String) := none

namespace Given

def of? (startRecording provider actions : Option Value) : Option Given := do
  let startRecording ← startRecording.mapM textOf?
  let provider ← provider.mapM choiceOf?
  let actions ← actions.mapM actionsOf?
  some { startRecording, provider, actions }

def ofItems? (items : List Value) : Option Given :=
  of? items[0]? items[1]? items[2]?

def ofValue? : Value → Option Given
  | .array items => ofItems? items
  | .tableArray tables => ofItems? (tables.map (.table .header ·))
  | value => do
    let entries ← entriesOf? value
    of? (entries.lookup "start_recording") (entries.lookup "provider") (entries.lookup "actions")

def decode? (text : String) : Option Given := do
  let entries ← Toml.read text.toList
  match entries.lookup "hotkey" with
  | none => some {}
  | some value => ofValue? value

def settings (given : Given) : HotkeyConfig where
  startRecording := given.startRecording.getD "ctrl+alt+r"
  provider := given.provider.getD .auto
  actions := given.actions.getD .empty

theorem hotkeyConfigOf?_eq (startRecording provider actions : Option Value) :
    hotkeyConfigOf? startRecording provider actions =
      (of? startRecording provider actions).map settings := by
  have field {α β : Type} (read : Value → Option α) (usual : α) (value : Option Value)
      (next : α → Option β) : ((value.map read).getD (some usual)).bind next =
        (value.mapM read).bind fun given => next (given.getD usual) := by
    cases value with
    | none => rfl
    | some value => cases given : read value <;> simp [given]
  unfold hotkeyConfigOf? of?
  simp only [bind, field, Option.map_bind, Function.comp_def]
  rfl

theorem hotkeyConfigOfValue?_eq (value : Value) :
    hotkeyConfigOfValue? value = (ofValue? value).map settings := by
  unfold hotkeyConfigOfValue? ofValue?
  split
  · exact hotkeyConfigOf?_eq ..
  · exact hotkeyConfigOf?_eq ..
  · simp only [hotkeyConfigOf?_eq, bind, Option.map_bind]
    rfl

theorem decode_eq_ok_iff {text : String} {config : Config} :
    Config.decode text = .ok config ↔
      ∃ given, decode? text = some given ∧ config = { hotkey := given.settings } := by
  unfold Config.decode decode?
  cases Toml.read text.toList with
  | none => simp
  | some entries =>
      simp only [bind, Option.bind_some]
      cases entries.lookup "hotkey" with
      | none => simp [settings, eq_comm]
      | some value =>
          simp only [hotkeyConfigOfValue?_eq]
          cases ofValue? value <;> simp [eq_comm]

/-- The file, if there is one, holds a document that gives this; a file that is missing gives nothing. -/
inductive HeldBy (files : FileTree) : Option String → Given → Prop where
  | missing {path : Option String} (missing : path.filter files.exists? = none) : HeldBy files path {}
  | read {path : String} {file : File} {text : String} {given : Given}
      (found : files.exists? path = true) (read : files.readFile path = .ok file)
      (characters : String.fromUTF8? file.content = some text) (decoded : decode? text = some given) :
      HeldBy files (some path) given

theorem ofFile_eq_ok_iff {files : FileTree} {path : Option String} {config : Config} :
    Config.ofFile files path = .ok config ↔
      ∃ given, HeldBy files path given ∧ config = { hotkey := given.settings } := by
  have filtered {path : String} (found : files.exists? path = true) :
      (some path).filter files.exists? = some path := by
    rw [Option.filter_some, if_pos found]
  constructor
  · intro read
    unfold Config.ofFile at read
    split at read
    · next missing => exact ⟨{}, .missing missing, (Except.ok.inj read).symm⟩
    · next path present =>
      obtain ⟨rfl, found⟩ := Option.filter_eq_some_iff.mp present
      split at read
      · cases read
      · next file content =>
        split at read
        · cases read
        · next text characters =>
          obtain ⟨given, decoded, same⟩ := decode_eq_ok_iff.mp read
          exact ⟨given, .read found content characters decoded, same⟩
  · rintro ⟨given, held, rfl⟩
    unfold Config.ofFile
    cases held with
    | missing missing => rw [missing]; rfl
    | read found content characters decoded =>
        simp only [filtered found, content, characters]
        exact decode_eq_ok_iff.mpr ⟨given, decoded, rfl⟩

theorem not_heldBy_iff {files : FileTree} {path : Option String} :
    (¬ ∃ given, HeldBy files path given) ↔
      ∃ file, path = some file ∧ files.exists? file = true ∧ ∀ given, ¬ HeldBy files (some file) given := by
  constructor
  · intro none
    cases present : path.filter files.exists? with
    | none => exact absurd ⟨{}, .missing present⟩ none
    | some file =>
        obtain ⟨rfl, found⟩ := Option.filter_eq_some_iff.mp present
        exact ⟨file, rfl, found, not_exists.mp none⟩
  · rintro ⟨file, rfl, -, none⟩
    exact not_exists.mpr none

end Given

def choiceNames : List (String × ProviderChoice) :=
  [("", .auto), ("auto", .auto), ("dbus", .dbus), ("portal", .dbus), ("evdev", .evdev)]

def ProviderChoice.named? (text : String) : Option ProviderChoice :=
  choiceNames.lookup (Text.lowerCase (Text.trim text))

theorem ProviderChoice.read_eq_ok_iff {text : String} {choice : ProviderChoice} :
    ProviderChoice.read text = .ok choice ↔ ProviderChoice.named? text = some choice := by
  unfold ProviderChoice.read ProviderChoice.parse named?
  generalize Text.lowerCase (Text.trim text) = plain
  split
  case h_6 blank auto dbus portal evdev =>
    have unnamed : choiceNames.lookup plain = none := by
      simp only [choiceNames, List.lookup_eq_none_iff, List.forall_mem_cons, bne_iff_ne]
      exact ⟨blank, auto, dbus, portal, evdev, nofun⟩
    rw [unnamed]
    exact iff_of_false nofun nofun
  all_goals exact ⟨fun read => Except.ok.inj read ▸ rfl, fun named => Option.some.inj named ▸ rfl⟩

def Variables.NameProvider (vars : Variables) : Prop :=
  ∀ text, vars "DICTKEY_PROVIDER" = some text → ∃ choice, ProviderChoice.named? text = some choice

/-- Each setting as the first layer has it that gives it: the command line, the environment, the file. -/
def layered (overrides : Overrides) (vars : Variables) (given : Given) : HotkeyConfig where
  startRecording :=
    (overrides.hotkey <|> (vars "DICTKEY_HOTKEY").filter (fun hotkey => !Text.isBlankText hotkey) <|>
      given.startRecording).getD "ctrl+alt+r"
  provider :=
    (overrides.provider <|> (vars "DICTKEY_PROVIDER").bind ProviderChoice.named? <|>
      given.provider).getD .auto
  actions := given.actions.getD .empty

theorem withVariables_eq_ok_iff {vars : Variables} {given : Given} {config : Config} :
    Config.withVariables { hotkey := given.settings } vars = .ok config ↔
      vars.NameProvider ∧ config = { hotkey := layered {} vars given } := by
  have spoken : Config.withHotkeyVariable { hotkey := given.settings } vars =
      { hotkey := { given.settings with startRecording := (layered {} vars given).startRecording } } := by
    unfold Config.withHotkeyVariable layered
    cases vars "DICTKEY_HOTKEY" with
    | none => rfl
    | some hotkey =>
        cases blank : Text.isBlankText hotkey <;> simp [blank, Given.settings, Option.filter]
  rw [Config.withVariables, spoken]
  unfold Config.withProviderVariable Variables.NameProvider
  cases asked : vars "DICTKEY_PROVIDER" with
  | none => simp [layered, asked, Given.settings, eq_comm, pure, Except.pure]
  | some text =>
      simp only [Option.some.injEq, forall_eq', ← ProviderChoice.read_eq_ok_iff]
      cases read : ProviderChoice.read text with
      | error cause => simp [bind, Except.bind]
      | ok choice =>
          have named := ProviderChoice.read_eq_ok_iff.mp read
          simp [layered, asked, named, Given.settings, eq_comm, bind, Except.bind, pure, Except.pure]

theorem withOverrides_layered (overrides : Overrides) (vars : Variables) (given : Given) :
    Config.withOverrides { hotkey := layered {} vars given } overrides.hotkey overrides.provider =
      { hotkey := layered overrides vars given } := by
  cases overrides with
  | mk hotkey provider => cases hotkey <;> cases provider <;> rfl

/-- The settings are those of the layers, with this file. -/
def FromLayers (overrides : Overrides) (vars : Variables) (files : FileTree) (path : Option String)
    (config : Config) : Prop :=
  ∃ given, Given.HeldBy files (configPath? vars path) given ∧
    config = { hotkey := layered overrides vars given }

/-- The file is there and gives no settings, or the variable for the provider names none. -/
def Unloadable (vars : Variables) (files : FileTree) (path : Option String) : Prop :=
  (∃ file, configPath? vars path = some file ∧ files.exists? file = true ∧
    ∀ given, ¬ Given.HeldBy files (some file) given) ∨
  ∃ text, vars "DICTKEY_PROVIDER" = some text ∧ ProviderChoice.named? text = none

theorem exists_error_iff {ε α : Type} {answer : Except ε α} :
    (∃ cause, answer = .error cause) ↔ ¬ ∃ value, answer = .ok value := by
  cases answer <;> simp

section Loading

variable {vars : Variables} {files : FileTree} {path : Option String} {config : Config}

theorem loadConfig_eq_ok_iff :
    loadConfig vars files path = .ok config ↔
      vars.NameProvider ∧ FromLayers {} vars files path config := by
  unfold loadConfig FromLayers
  constructor
  · intro loaded
    cases read : Config.ofFile files (configPath? vars path) with
    | error cause =>
        rw [read] at loaded
        cases loaded
    | ok found =>
        rw [read] at loaded
        obtain ⟨given, held, rfl⟩ := Given.ofFile_eq_ok_iff.mp read
        obtain ⟨named, same⟩ := withVariables_eq_ok_iff.mp loaded
        exact ⟨named, given, held, same⟩
  · rintro ⟨named, given, held, rfl⟩
    rw [Given.ofFile_eq_ok_iff.mpr ⟨given, held, rfl⟩]
    exact withVariables_eq_ok_iff.mpr ⟨named, rfl⟩

theorem loadConfig_fails_iff :
    (∃ cause, loadConfig vars files path = .error cause) ↔ Unloadable vars files path := by
  have unnamed : ¬ vars.NameProvider ↔
      ∃ text, vars "DICTKEY_PROVIDER" = some text ∧ ProviderChoice.named? text = none := by
    simp [Variables.NameProvider, ← Option.isSome_iff_exists]
  rw [Unloadable, exists_error_iff, ← Given.not_heldBy_iff, ← unnamed, or_comm,
    ← Classical.not_and_iff_not_or_not]
  refine not_congr ?_
  simp only [loadConfig_eq_ok_iff, FromLayers, exists_and_left]
  exact and_congr_right fun _ => ⟨fun ⟨_, given, held, _⟩ => ⟨given, held⟩,
    fun ⟨given, held⟩ => ⟨_, given, held, rfl⟩⟩

variable {overrides : Overrides}

theorem Overrides.load_eq_map :
    overrides.load vars files path =
      (loadConfig vars files path).map fun config =>
        config.withOverrides overrides.hotkey overrides.provider := by
  unfold Overrides.load
  cases loadConfig vars files path <;> rfl

theorem Overrides.load_fails_iff :
    (∃ cause, overrides.load vars files path = .error cause) ↔ Unloadable vars files path := by
  rw [load_eq_map, ← loadConfig_fails_iff]
  cases loadConfig vars files path <;> simp [Except.map]

theorem Overrides.load_eq_ok_iff :
    overrides.load vars files path = .ok config ↔
      vars.NameProvider ∧ FromLayers overrides vars files path config := by
  have mapped : overrides.load vars files path = .ok config ↔
      ∃ loaded, loadConfig vars files path = .ok loaded ∧
        loaded.withOverrides overrides.hotkey overrides.provider = config := by
    rw [load_eq_map]
    cases loadConfig vars files path <;> simp [Except.map]
  simp only [mapped, loadConfig_eq_ok_iff, FromLayers]
  constructor
  · rintro ⟨_, ⟨named, given, held, rfl⟩, rfl⟩
    exact ⟨named, given, held, withOverrides_layered overrides vars given⟩
  · rintro ⟨named, given, held, rfl⟩
    exact ⟨_, ⟨named, given, held, rfl⟩, withOverrides_layered overrides vars given⟩

end Loading

def Overrides.written (hotkey provider : Option String) : Overrides where
  hotkey := hotkey
  provider := provider.bind ProviderChoice.named?

theorem Overrides.read_eq_ok_iff {hotkey provider : Option String} {overrides : Overrides} :
    Overrides.read hotkey provider = .ok overrides ↔
      (¬ ∃ text, provider = some text ∧ ProviderChoice.named? text = none) ∧
        overrides = .written hotkey provider := by
  unfold Overrides.read written
  cases provider with
  | none => simp [eq_comm, pure, Except.pure]
  | some text =>
      cases read : ProviderChoice.read text with
      | error cause =>
          have unnamed : ProviderChoice.named? text = none := by
            rw [Option.eq_none_iff_forall_ne_some]
            intro choice named
            rw [ProviderChoice.read_eq_ok_iff.mpr named] at read
            cases read
          simp [read, unnamed, bind, Except.bind]
      | ok choice =>
          have named := ProviderChoice.read_eq_ok_iff.mp read
          simp [read, named, eq_comm, bind, Except.bind, pure, Except.pure]

theorem Overrides.read_fails_iff (hotkey : Option String) {provider : Option String} :
    (∃ cause, Overrides.read hotkey provider = .error cause) ↔
      ∃ text, provider = some text ∧ ProviderChoice.named? text = none := by
  simp only [exists_error_iff, read_eq_ok_iff, exists_and_left, exists_eq, and_true,
    Classical.not_not]

end GlobalHotkeys
