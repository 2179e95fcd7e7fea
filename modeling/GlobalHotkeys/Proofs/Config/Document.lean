import GlobalHotkeys.Config.Document
import GlobalHotkeys.Proofs.NameMap
import GlobalHotkeys.Proofs.Toml.Document

namespace GlobalHotkeys

open Toml

namespace HotkeyConfig

variable {config : HotkeyConfig} {actions : List (String × String)}

def fields (config : HotkeyConfig) : List (String × String) :=
  [("start_recording", config.startRecording), ("provider", config.provider.name)]

def document (config : HotkeyConfig) (actions : List (String × String)) : String :=
  "[hotkey]\n" ++ writeEntries config.fields ++ "\n[hotkey.actions]\n" ++ writeEntries actions

theorem encode_eq_document (config : HotkeyConfig) :
    Config.encode { hotkey := config } = config.document config.actions.entries := by
  simp [Config.encode, document, fields, writeEntries, String.append_assoc]

def table : Place where
  before := []
  name := "hotkey"
  fresh := List.not_mem_nil

def actionsTable (config : HotkeyConfig) : Place where
  before := texts config.fields
  name := "actions"
  fresh := by simp [texts, fields]

theorem toList_document (config : HotkeyConfig) (actions : List (String × String)) :
    (config.document actions).toList =
      '[' :: (writeKey [] table.name ++ ']' :: '\n' :: ((writeEntries config.fields).toList ++
        '\n' :: '[' :: (writeKey [table.name] config.actionsTable.name ++ ']' :: '\n' ::
          ((writeEntries actions).toList ++ [])))) := by
  have outer : "[hotkey]\n".toList = '[' :: (writeKey [] table.name ++ [']', '\n']) := by decide
  have inner : "\n[hotkey.actions]\n".toList =
      '\n' :: '[' :: (writeKey ["hotkey"] "actions" ++ [']', '\n']) := by decide
  simp only [document, String.toList_append, outer, inner]
  simp [table, actionsTable]

theorem read_document (distinct : (actions.map (·.1)).Nodup) :
    Toml.read (config.document actions).toList =
      some (fill [table, config.actionsTable] (texts actions)) := by
  have fields : (([] : Entries).map (·.1) ++ config.fields.map (·.1)).Nodup := by
    simp [HotkeyConfig.fields]
  have entries : (([] : Entries).map (·.1) ++ actions.map (·.1)).Nodup := by simpa using distinct
  have settings (rest : List Char) :
      lines {} ('[' :: (writeKey [] table.name ++ ']' :: '\n' ::
        ((writeEntries config.fields).toList ++ '\n' :: rest))) =
        lines (within [table] config.actionsTable.before) rest :=
    (lines_header [] (by decide) table _).trans ((lines_writeEntries fields _).trans (lines_newline _ rest))
  have inside : lines (within [table] config.actionsTable.before)
      ('[' :: (writeKey [table.name] config.actionsTable.name ++ ']' :: '\n' ::
        ((writeEntries actions).toList ++ []))) =
      some (within [table, config.actionsTable] (texts actions)) :=
    (lines_header [table] (by decide) config.actionsTable _).trans
      ((lines_writeEntries entries []).trans (lines_nil _))
  rw [Toml.read, toList_document, skipMark.eq_2 _ (fun _ same => absurd (List.cons.inj same).1 (by decide)),
    settings, inside]
  rfl

theorem mapM_texts (actions : List (String × String)) :
    (texts actions).mapM (fun (name, value) => (textOf? value).map (name, ·)) = some actions := by
  induction actions with
  | nil => rfl
  | cons entry rest ih =>
      rw [texts, List.map_cons, List.mapM_cons, ← texts, ih]
      rfl

theorem actionsOf?_texts (origin : Origin) (actions : List (String × String)) :
    actionsOf? (.table origin (texts actions)) = some (NameMap.ofList actions) := by
  simp [actionsOf?, entriesOf?, mapM_texts]

theorem ofName?_name (choice : ProviderChoice) : ProviderChoice.ofName? choice.name = some choice := by
  cases choice <;> rfl

theorem decode_document (perm : actions.Perm config.actions.entries) :
    Config.decode (config.document actions) = .ok { hotkey := config } := by
  have distinct : (actions.map (·.1)).Nodup := (perm.map Prod.fst).nodup_iff.mpr config.actions.nodup_names
  have settings : hotkeyConfigOf? (some (.string config.startRecording)) (some (.string config.provider.name))
      (some (.table .header (texts actions))) = some config := by
    simp [hotkeyConfigOf?, textOf?, choiceOf?, ofName?_name, actionsOf?_texts, NameMap.ofList_of_perm perm]
  have decoded : hotkeyConfigOfValue? (.table .header (fill [config.actionsTable] (texts actions))) =
      some config := settings
  have held : (fill [table, config.actionsTable] (texts actions)).lookup "hotkey" =
      some (.table .header (fill [config.actionsTable] (texts actions))) := rfl
  rw [Config.decode, read_document distinct]
  simp only [held, decoded]

end HotkeyConfig

end GlobalHotkeys
