import GlobalHotkeys.Release.Basic
import GlobalHotkeys.Simulation.Storage

namespace GlobalHotkeys.Simulation

inductive ToolScript where
  | working
  | idle (exitCode : Nat)
  | missing

structure ToolBench where
  files : FileTree
  vars : Variables
  builder : ToolScript := .working
  elevator : ToolScript := .working
  archiver : ToolScript := .working
  builds : List (String × File) := []
  calls : List ToolCall := []

def presentSecond : Nat := 1790000000

def isScript (content : ByteArray) : Bool :=
  "#!".toUTF8.toList.isPrefixOf content.toList

def scriptedFile (content : ByteArray) (changed : Option Nat) : File :=
  { content, changed := changed.getD presentSecond, executable := isScript content }

namespace ToolBench

def project : String := "p"

def ofFiles (files : FileTree) (vars : Variables) : ToolBench :=
  let tasks := Path.join project "xtask"
  { files :=
      { (files.createDirectories (inSandbox tasks)).toOption.getD files with
        workingDirectory := Path.parts (inSandbox tasks), now := presentSecond }
    vars }

def greeting (arguments : List String) : String :=
  Text.join " " ("dictkey-says" :: arguments) ++ "\n"

def putAll (directory : String) (files : FileTree) (added : List (String × File)) : FileTree :=
  added.foldl
    (fun files (path, file) => (place files (Path.join directory path) file).getD files) files

def changing (update : FileTree → Except IoError FileTree) : Run ToolBench Printed := do
  match update (← Run.view ToolBench.files) with
  | .ok files =>
    Run.change fun bench => { bench with files }
    pure {}
  | .error _ => pure { exitCode := 1 }

def installFile (executable : Bool) (source target : String) (files : FileTree) :
    Except IoError FileTree := do
  let file ← files.readFile source
  let files ← files.createHolder target
  let files ← files.writeFile target file.content
  pure (files.put (← files.locate target) (.file { file with executable, changed := files.now }))

def removeFile (path : String) (files : FileTree) : Except IoError FileTree :=
  if files.exists? path then files.removeFile path else .ok files

def unknownOption (tool option : String) : Printed :=
  { exitCode := 1
    errors := Printed.unlines
      [s!"{tool}: unrecognized option '{option}'", s!"Try '{tool} --help' for more information."] }

def privileged (arguments : List String) : Run ToolBench Printed := do
  if let some option := arguments.find? (·.startsWith "--") then
    return unknownOption (arguments.headD "") option
  match arguments with
  | ["install", "-Dm755", source, target] => changing (installFile true source target)
  | ["install", "-Dm644", source, target] => changing (installFile false source target)
  | ["rm", "-f", path] => do
    if let .ok .directory := (← Run.view ToolBench.files).find path then
      return { exitCode := 1, errors := s!"rm: cannot remove '{path}': Is a directory\n" }
    changing (removeFile path)
  | _ => pure { exitCode := 1 }

def work (tool directory : String) (arguments : List String) : Run ToolBench Printed := do
  match tool with
  | "cargo" =>
    Run.change fun bench => { bench with files := putAll directory bench.files bench.builds }
    pure {}
  | "sudo" => privileged arguments
  | _ =>
    changing fun files => files.writeText (Path.join directory (arguments.getD 1 "")) "packed"

def runFile (call : ToolCall) : Run ToolBench (Except IoError Printed) := do
  match (← Run.view ToolBench.files).readFile call.tool with
  | .error cause => pure (.error cause)
  | .ok file =>
    pure (if file.executable && isScript file.content then .ok { output := greeting call.arguments }
      else .error .permissionDenied)

def scriptOf (bench : ToolBench) : String → Option ToolScript
  | "cargo" => some bench.builder
  | "sudo" => some bench.elevator
  | "tar" => some bench.archiver
  | _ => none

def call (call : ToolCall) : Run ToolBench (Except IoError Printed) := do
  let bench ← Run.world
  let directory := call.directory.getD (Path.ofPlace bench.files.workingDirectory)
  let recorded := Run.change fun bench =>
    { bench with calls := bench.calls ++ [{ call with directory := some directory }] }
  match bench.scriptOf call.tool with
  | none => runFile call
  | some .missing => pure (.error .notFound)
  | some (.idle exitCode) =>
    recorded
    pure (.ok { exitCode })
  | some .working =>
    recorded
    .ok <$> work call.tool directory call.arguments

def workshop : Workshop ToolBench where
  vars := Run.view ToolBench.vars
  files := Run.view ToolBench.files
  setFiles files := Run.change fun bench => { bench with files }
  call := call

def takeCalls : Run ToolBench (List ToolCall) := do
  let calls ← Run.view ToolBench.calls
  Run.change fun bench => { bench with calls := [] }
  pure calls

end ToolBench

def callText (call : ToolCall) : String :=
  let directory := call.directory.getD "."
  let pages := (call.vars.lookup "DICTKEY_GEN_MANPAGES").getD ""
  Text.join " " (call.tool :: call.arguments.map fun argument => s!"<{argument}>") ++
    s!" in {directory} man={pages}"

def fileNames (files : FileTree) : List String :=
  ((files.filesBelow (Path.parts sandbox)).map (·.1)).mergeSort fun first second => first ≤ second

structure ReleaseReport where
  printed : Printed
  calls : List ToolCall
  files : List String

namespace ReleaseRun

def report (arguments : List String) : Run ToolBench ReleaseReport := do
  let printed ← Release.run ToolBench.workshop arguments
  pure
    { printed, calls := ← ToolBench.takeCalls
      files := fileNames (← Run.view ToolBench.files) }

def run (tasks : List (List String)) : Run ToolBench (List ReleaseReport) :=
  tasks.mapM report

def manPages (files : FileTree) (vars : Variables) : ReleaseReport :=
  let bench : ToolBench := { files, vars }
  let outcome :=
    Task.finish (ManPage.buildStep ToolBench.workshop) TaskError.diagnostic bench
  { printed := outcome.value, calls := [], files := fileNames outcome.world.files }

end ReleaseRun

end GlobalHotkeys.Simulation
