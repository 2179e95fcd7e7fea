import GlobalHotkeys.Config.Storage

namespace GlobalHotkeys.Simulation

def sandbox : String := "/$DIR"

def emptySandbox : FileTree :=
  { entries := [(["$DIR"], .directory)], workingDirectory := ["$DIR"] }

def inSandbox (path : String) : String :=
  Path.join sandbox path

def place (files : FileTree) (path : String) (file : File) : Option FileTree :=
  (do
    let files ← files.createHolder (inSandbox path)
    let files ← files.writeFile (inSandbox path) file.content
    let spot ← files.locate (inSandbox path)
    pure (files.put spot (.file file))).toOption

def bytesOfHex : List Char → List UInt8
  | first :: second :: rest => UInt8.ofNat (Toml.numberOf 16 [first, second]) :: bytesOfHex rest
  | _ => []

inductive StorageStep where
  | write (path : String) (content : ByteArray)
  | makeDirectory (path : String)
  | load (path : String)
  | init (path : String)
  | read (path : String)
  | save (path : String) (config : Config)

inductive StorageAnswer where
  | done (success : Bool)
  | loaded (result : Except ConfigError Config)
  | written (result : Except Failure Unit)
  | text (content : Option String)
  | saved (result : Except ConfigError (String × Bool))

namespace StorageStep

def noVariables : Variables := fun _ => none

def readText (files : FileTree) (path : String) : Option String :=
  (files.readFile path).toOption.bind fun file => String.fromUTF8? file.content

def perform (files : FileTree) : StorageStep → StorageAnswer × FileTree
  | write path content =>
    match place files path { content } with
    | some after => (.done true, after)
    | none => (.done false, files)
  | makeDirectory path =>
    match files.createDirectories (inSandbox path) with
    | .ok after => (.done true, after)
    | .error _ => (.done false, files)
  | load path => (.loaded (loadConfig noVariables files (some (inSandbox path))), files)
  | init path =>
    match writeDefaultConfig files (inSandbox path) with
    | .ok after => (.written (.ok ()), after)
    | .error cause => (.written (.error cause), files)
  | read path => (.text (readText files (inSandbox path)), files)
  | save path config =>
    match saveConfig files config (inSandbox path) with
    | .error cause => (.saved (.error cause), files)
    | .ok after =>
      let loaded := loadConfig noVariables after (some (inSandbox path))
      let same := match loaded with
        | .ok found => found == config
        | .error _ => false
      (.saved (.ok ((readText after (inSandbox path)).getD "", same)), after)

def run (files : FileTree) : List StorageStep → List StorageAnswer
  | [] => []
  | step :: rest =>
    let (answer, after) := step.perform files
    answer :: run after rest

end StorageStep

def settledText (config : Config) (text : String) : Option String :=
  let lines := Text.split '\n' text
  let (before, actions) := lines.span (· != "[hotkey.actions]")
  let count := config.hotkey.actions.entries.length
  let own := (actions.drop 1).dropLast
  if count < 2 then some text
  else if own.length != count then none
  else
    some (Text.join "\n" (before ++ actions.take 1 ++
      own.mergeSort (fun first second => first ≤ second) ++ [""]))

end GlobalHotkeys.Simulation
