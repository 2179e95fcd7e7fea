import GlobalHotkeys.Program.Offline

namespace GlobalHotkeys

namespace Main

def placeOf (workingDirectory path : String) : List String :=
  Path.parts (Path.join workingDirectory path)

def readEntry (place : List String) : IO (Option FileEntry) := do
  let path := (← IO.currentDir) / Path.ofPlace place
  if ← path.isDir then return some .directory
  try return some (.file { content := ← IO.FS.readBinFile path }) catch _ => return none

def readWay (files : FileTree) (path : String) : IO FileTree := do
  let place := placeOf (Path.ofPlace files.workingDirectory) path
  let mut files := files
  for count in List.range place.length do
    let step := place.take (count + 1)
    if let some entry ← readEntry step then files := files.put step entry
  return files

def readFiles (paths : List String) : IO FileTree := do
  let workingDirectory := Path.parts (← IO.currentDir).toString
  let mut files : FileTree := { workingDirectory }
  for path in "." :: paths do
    files ← readWay files path
  return files

def isUnchanged (before : FileTree) (place : List String) (entry : FileEntry) : Bool :=
  match before.entry? place, entry with
  | some .directory, .directory => true
  | some (.file old), .file new => old.content == new.content
  | _, _ => false

def writeChanges (before after : FileTree) : IO Unit := do
  for (place, _) in before.entries do
    if (after.entry? place).isNone then IO.FS.removeFile (Path.ofPlace place)
  for (place, entry) in after.entries do
    if !isUnchanged before place entry then
      match entry with
      | .directory => IO.FS.createDirAll (Path.ofPlace place)
      | .file file => IO.FS.writeBinFile (Path.ofPlace place) file.content

def readVariables : IO Variables := do
  let found ← Program.variableNames.filterMapM fun name => do
    return (← IO.getEnv name).map (name, ·)
  return fun name => found.lookup name

def processId : IO Nat := do
  let state ← IO.FS.readFile "/proc/self/stat"
  return (String.ofList (state.toList.takeWhile Char.isDigit)).toNat?.getD 0

def printLog (arguments : List String) (lines : List LogLine) : IO Unit := do
  if let .ok line := CommandLine.parse arguments then
    for shown in linesUpTo (Program.logLevel line) lines do
      IO.println shown.text

partial def awaitEnd (input : IO.FS.Stream) : IO Unit := do
  unless (← input.getLine).isEmpty do awaitEnd input

def carryOut {α : Type} (arguments : List String) (computer : OfflineComputer)
    (step : Run OfflineComputer α) : IO (α × OfflineComputer) := do
  let outcome := step computer
  writeChanges computer.files outcome.world.files
  printLog arguments outcome.log
  return (outcome.value, outcome.world)

def run (arguments : List String) : IO UInt32 := do
  let vars ← readVariables
  let files ← readFiles (Program.paths vars arguments)
  let host := OfflineComputer.host (← processId)
  let (launched, computer) ←
    carryOut arguments { files, vars } (Program.launch host arguments)
  match launched with
  | .ended printed =>
    IO.print printed.output
    IO.eprint printed.errors
    return UInt32.ofNat printed.exitCode
  | .running daemon =>
    awaitEnd (← IO.getStdin)
    let _ ← carryOut arguments computer (Daemon.finish host .terminate daemon)
    return 0

end Main

end GlobalHotkeys

def main (arguments : List String) : IO UInt32 :=
  GlobalHotkeys.Main.run arguments
