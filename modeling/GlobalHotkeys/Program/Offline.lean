import GlobalHotkeys.Program.Basic
import GlobalHotkeys.Provider.Real

namespace GlobalHotkeys

def noInputDirectory : HotkeyError :=
  .deviceAccess s!"/dev/input: {IoError.notFound.message}"

structure OfflineComputer where
  files : FileTree
  vars : Variables

namespace OfflineComputer

def machine : Machine OfflineComputer where
  bus := .unreachable .noSocket
  keyboards := .unreachable noInputDirectory
  environment := Run.view fun computer => Environment.detect computer.vars
  inInputGroup := false

def host (processId : Nat) : Host OfflineComputer HotkeyProvider where
  providers := machine.providers
  vars := Run.view OfflineComputer.vars
  files := Run.view OfflineComputer.files
  setFiles files := Run.change fun computer => { computer with files }
  processId := processId
  inInputGroup := machine.inInputGroup

end OfflineComputer

def Program.variableNames : List String :=
  ["APPDIR", "APPIMAGE", "DICTKEY_HOTKEY", "DICTKEY_PROVIDER", "FLATPAK_ID", "HOME", "TMPDIR",
   "XDG_CONFIG_HOME", "XDG_CURRENT_DESKTOP", "XDG_RUNTIME_DIR"]

def Program.paths (vars : Variables) (arguments : List String) : List String :=
  let named := (CommandLine.parse arguments).toOption.bind CommandLine.config
  (configPath? vars named).toList ++ [Path.join (runtimeDirectory vars) "pid"]

end GlobalHotkeys
