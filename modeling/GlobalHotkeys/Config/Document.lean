import GlobalHotkeys.Config.Basic
import GlobalHotkeys.Toml.Reader
import GlobalHotkeys.Toml.Writer

namespace GlobalHotkeys

open Toml (Value Entries)

def dateTimeName : String := "$__toml_private_datetime"

/-- The value as a table, if it is one. A date or time counts as a table of one entry. -/
def entriesOf? : Value → Option Entries
  | .inlineTable _ entries => some entries
  | .table _ entries => some entries
  | .dateTime text => some [(dateTimeName, .string text)]
  | _ => none

def textOf? : Value → Option String
  | .string text => some text
  | _ => none

def isVoid : Value → Bool
  | .array items => items.isEmpty
  | .inlineTable _ entries => entries.isEmpty
  | .table _ entries => entries.isEmpty
  | .tableArray tables => tables.isEmpty
  | _ => false

/-- A choice by its name, or as a table of that one name with nothing behind it. -/
def choiceOf? : Value → Option ProviderChoice
  | .string text => ProviderChoice.ofName? text
  | .inlineTable _ [(name, value)] => if isVoid value then ProviderChoice.ofName? name else none
  | .table _ [(name, value)] => if isVoid value then ProviderChoice.ofName? name else none
  | _ => none

def actionsOf? (value : Value) : Option (NameMap String) := do
  let entries ← entriesOf? value
  let actions ← entries.mapM fun (name, hotkey) => (textOf? hotkey).map (name, ·)
  some (NameMap.ofList actions)

def hotkeyConfigOf? (startRecording provider actions : Option Value) : Option HotkeyConfig := do
  let base : HotkeyConfig := {}
  let startRecording ← (startRecording.map textOf?).getD (some base.startRecording)
  let provider ← (provider.map choiceOf?).getD (some base.provider)
  let actions ← (actions.map actionsOf?).getD (some base.actions)
  some { startRecording, provider, actions }

def hotkeyConfigOfItems? (items : List Value) : Option HotkeyConfig :=
  hotkeyConfigOf? items[0]? items[1]? items[2]?

def hotkeyConfigOfValue? : Value → Option HotkeyConfig
  | .array items => hotkeyConfigOfItems? items
  | .tableArray tables => hotkeyConfigOfItems? (tables.map (.table .header ·))
  | value => do
    let entries ← entriesOf? value
    hotkeyConfigOf? (entries.lookup "start_recording") (entries.lookup "provider")
      (entries.lookup "actions")

def Config.decode (text : String) : Except ConfigError Config :=
  match Toml.read text.toList with
  | none => .error (.invalid "not a TOML document")
  | some entries =>
    match entries.lookup "hotkey" with
    | none => .ok {}
    | some value =>
      match hotkeyConfigOfValue? value with
      | some hotkey => .ok { hotkey }
      | none => .error (.invalid "not the settings of hotkeys")

def Config.encode (config : Config) : String :=
  "[hotkey]\n" ++
    Toml.writeEntry "start_recording" config.hotkey.startRecording ++
    Toml.writeEntry "provider" config.hotkey.provider.name ++
    "\n[hotkey.actions]\n" ++
    String.join (config.hotkey.actions.entries.map fun (name, hotkey) =>
      Toml.writeEntry name hotkey)

end GlobalHotkeys
