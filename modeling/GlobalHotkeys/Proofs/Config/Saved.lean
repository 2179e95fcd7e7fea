import GlobalHotkeys.Config.Storage
import GlobalHotkeys.Proofs.Config.Document
import GlobalHotkeys.Proofs.Files.Writing

namespace GlobalHotkeys

variable {vars : Variables} {files saved : FileTree} {config : Config} {path : String}

theorem fromUTF8?_toUTF8 (text : String) : String.fromUTF8? text.toUTF8 = some text :=
  dif_pos text.isValidUTF8

theorem Config.withVariables_of_none (hotkey : vars "DICTKEY_HOTKEY" = none)
    (provider : vars "DICTKEY_PROVIDER" = none) (config : Config) : config.withVariables vars = .ok config := by
  rw [withVariables, withProviderVariable, provider, withHotkeyVariable, hotkey]
  rfl

theorem Config.ofFile_writeText {order : List (String × String)}
    (perm : order.Perm config.hotkey.actions.entries)
    (written : files.writeText path (config.hotkey.document order) = .ok saved) :
    Config.ofFile saved (some path) = .ok config := by
  obtain ⟨file, read, content⟩ := FileTree.readFile_writeFile written
  have there : (some path).filter saved.exists? = some path := by
    rw [Option.filter_some, if_pos (FileTree.exists?_of_readFile read)]
  simp only [ofFile, there, read, content, fromUTF8?_toUTF8, HotkeyConfig.decode_document perm]

theorem loadConfig_writeText (hotkey : vars "DICTKEY_HOTKEY" = none) (provider : vars "DICTKEY_PROVIDER" = none)
    {order : List (String × String)} (perm : order.Perm config.hotkey.actions.entries)
    (written : files.writeText path (config.hotkey.document order) = .ok saved) :
    loadConfig vars saved (some path) = .ok config := by
  have read : Config.ofFile saved (configPath? vars (some path)) = .ok config :=
    Config.ofFile_writeText perm written
  rw [loadConfig, read]
  exact config.withVariables_of_none hotkey provider

theorem exists_writeText_of_saveConfig (done : saveConfig files config path = .ok saved) :
    ∃ held : FileTree, held.writeText path config.encode = .ok saved := by
  obtain ⟨held, -, written⟩ := exists_of_bind_eq_ok done
  cases result : held.writeText path config.encode with
  | error cause =>
      rw [result] at written
      cases written
  | ok after =>
      rw [result] at written
      obtain rfl := Except.ok.inj written
      exact ⟨held, result⟩

/-- Without a variable that changes them, the settings that loading gives from a file are those that were
saved to it; also where their actions were written in another order. -/
theorem saved_settings_load (hotkey : vars "DICTKEY_HOTKEY" = none)
    (provider : vars "DICTKEY_PROVIDER" = none) :
    (∀ saved, saveConfig files config path = .ok saved → loadConfig vars saved (some path) = .ok config) ∧
      ∀ order saved, order.Perm config.hotkey.actions.entries →
        files.writeText path (config.hotkey.document order) = .ok saved →
          loadConfig vars saved (some path) = .ok config := by
  constructor
  · intro saved done
    obtain ⟨held, written⟩ := exists_writeText_of_saveConfig done
    rw [config.hotkey.encode_eq_document] at written
    exact loadConfig_writeText hotkey provider (List.Perm.refl config.hotkey.actions.entries) written
  · intro order saved perm written
    exact loadConfig_writeText hotkey provider perm written

def Config.awkward : Config where
  hotkey :=
    { startRecording := "\"\"\"say \\ \u0007\n'''it'''\r\n\t",
      provider := .evdev,
      actions := NameMap.ofList
        [("", ""), ("a.b c", "ctrl+'\"'"), ("\"", "C:\\path"), ("line\nbreak", "it's\n\"quoted\""),
          ("größe", "''''"), ("plain-name", "ctrl+alt+p")] }

theorem awkward_settings_load :
    ∃ saved backwards,
      saveConfig { entries := [(["home"], .directory)] } .awkward "/home/settings/config.toml" = .ok saved ∧
      loadConfig (fun _ => none) saved (some "/home/settings/config.toml") = .ok .awkward ∧
      saved.writeText "/home/settings/config.toml"
        (Config.awkward.hotkey.document Config.awkward.hotkey.actions.entries.reverse) = .ok backwards ∧
      loadConfig (fun _ => none) backwards (some "/home/settings/config.toml") = .ok .awkward := by
  have parent : Path.parent? "/home/settings/config.toml" = some "/home/settings" := by decide
  have outer : Path.parts "/home/settings" = ["home", "settings"] := by decide
  have whole : Path.parts "/home/settings/config.toml" = ["home", "settings", "config.toml"] := by decide
  obtain ⟨saved, backwards, done, again⟩ : ∃ saved backwards,
      saveConfig { entries := [(["home"], .directory)] } .awkward "/home/settings/config.toml" = .ok saved ∧
        saved.writeText "/home/settings/config.toml"
          (Config.awkward.hotkey.document Config.awkward.hotkey.actions.entries.reverse) = .ok backwards := by
    simp only [saveConfig, FileTree.createHolder, parent, FileTree.createDirectories, outer, FileTree.writeText,
      FileTree.writeFile, FileTree.locate, whole]
    exact ⟨_, _, rfl, rfl⟩
  exact ⟨saved, backwards, done, (saved_settings_load rfl rfl).1 saved done, again,
    (saved_settings_load rfl rfl).2 _ backwards (List.reverse_perm _) again⟩

end GlobalHotkeys
