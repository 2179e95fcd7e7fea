import GlobalHotkeys.Config.Document
import GlobalHotkeys.Config.Template
import GlobalHotkeys.Files.Tree
import GlobalHotkeys.Log
import GlobalHotkeys.Text.Quoted

namespace GlobalHotkeys

/-- The directory of the user's settings, from an absolute `XDG_CONFIG_HOME` or else from `HOME`. -/
def configDirectory? (vars : Variables) : Option String :=
  match (vars "XDG_CONFIG_HOME").filter Path.isAbsolute with
  | some base => some (Path.join base "dictkey")
  | none =>
    ((vars "HOME").filter (· != "")).map fun home =>
      Path.join (Path.join home ".config") "dictkey"

def defaultConfigPath? (vars : Variables) : Option String :=
  (configDirectory? vars).map (Path.join · "config.toml")

def runtimeDirectory (vars : Variables) : String :=
  Path.join
    ((vars "XDG_RUNTIME_DIR").getD ((vars "TMPDIR").getD "/tmp")) "dictkey"

def configPath? (vars : Variables) (named : Option String) : Option String :=
  named <|> defaultConfigPath? vars

def Config.ofFile (files : FileTree) (path : Option String) : Except ConfigError Config :=
  match path.filter files.exists? with
  | none => .ok {}
  | some path =>
    match files.readFile path with
    | .error cause => .error (.unreadable cause)
    | .ok file =>
      match String.fromUTF8? file.content with
      | none => .error .notText
      | some text => Config.decode text

def loadConfig (vars : Variables) (files : FileTree) (named : Option String) :
    Except ConfigError Config := do
  let config ← Config.ofFile files (configPath? vars named)
  config.withVariables vars

def loadLog (vars : Variables) (files : FileTree) (named : Option String) : List LogLine :=
  match configPath? vars named with
  | none => []
  | some path =>
    [{ level := .debug, message :=
        if files.exists? path then s!"Loading config from {Text.quoted path}"
        else s!"Config file not found at {Text.quoted path}, using defaults" }]

def saveConfig (files : FileTree) (config : Config) (path : String) :
    Except ConfigError FileTree := do
  let files ← (files.createHolder path).mapError .noDirectory
  (files.writeText path config.encode).mapError .unwritable

def writeDefaultConfig (files : FileTree) (path : String) : Except Failure FileTree := do
  if files.exists? path then throw (.config (.alreadyExists (Text.quoted path)))
  let files ← (files.createHolder path).mapError .io
  (files.writeText path defaultConfigText).mapError .io

end GlobalHotkeys
