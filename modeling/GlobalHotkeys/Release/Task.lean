import GlobalHotkeys.Environment
import GlobalHotkeys.Files.Tree
import GlobalHotkeys.Program.Printed
import GlobalHotkeys.Run
import GlobalHotkeys.Text.Quoted

namespace GlobalHotkeys

structure ToolCall where
  tool : String
  arguments : List String
  directory : Option String := none
  vars : List (String × String) := []
  deriving DecidableEq, Repr

inductive TaskError where
  | unknownTask
  | buildFailed
  | binaryMissing (path : String)
  | manPagesMissing (directory : String)
  | privilegedCallFailed (arguments : List String)
  | archiverFailed
  | notAFile
  | io (cause : IoError)
  deriving DecidableEq, Repr

namespace TaskError

def message : TaskError → String
  | unknownTask => "Unknown command"
  | buildFailed => "Build failed"
  | binaryMissing path => s!"Binary not found at {Text.quoted path}"
  | manPagesMissing directory => s!"No generated man pages under {Text.quoted directory}"
  | privilegedCallFailed arguments => "'" ++ Text.join " " ("sudo" :: arguments) ++ "' failed"
  | archiverFailed => "tar failed"
  | notAFile => "the source path is neither a regular file nor a symlink to a regular file"
  | io cause => cause.message

def diagnostic : TaskError → String
  | io cause => cause.diagnostic
  | other => other.message

end TaskError

structure Workshop (World : Type) where
  vars : Run World Variables
  files : Run World FileTree
  setFiles : FileTree → Run World Unit
  call : ToolCall → Run World (Except IoError Printed)

abbrev Task (World α : Type) := ExceptT TaskError (StateT Printed (Run World)) α

namespace Task

variable {World α : Type}

def say (lines : List String) : Task World Unit :=
  modify fun printed => printed.say lines

def complain (lines : List String) : Task World Unit :=
  modify fun printed => printed.complain lines

def finish (task : Task World Unit) (describe : TaskError → String) : Run World Printed := do
  match ← task.run {} with
  | (.ok (), printed) => pure printed
  | (.error cause, printed) => pure (printed.fail (describe cause))

end Task

namespace Workshop

variable {World : Type} (shop : Workshop World)

def change (update : FileTree → Except IoError FileTree) : Task World Unit := do
  match update (← shop.files) with
  | .ok files => shop.setFiles files
  | .error cause => throw (.io cause)

def holds (path : String) : Task World Bool := do
  pure ((← shop.files).exists? path)

def copy (source target : String) : Task World Unit := do
  match (← shop.files).find source with
  | .ok .directory => throw .notAFile
  | _ => shop.change fun files => files.copyFile source target

def copyPresent (names : List String) (source target : String) : Task World Unit := do
  for name in names do
    if ← shop.holds (Path.join source name) then
      shop.copy (Path.join source name) (Path.join target name)

def succeeds (call : ToolCall) : Task World Bool := do
  match ← shop.call call with
  | .error cause => throw (.io cause)
  | .ok printed =>
    modify fun before => before.append printed
    pure (printed.exitCode == 0)

def tryCall (call : ToolCall) : Task World Unit := do
  if let .ok printed ← shop.call call then modify fun before => before.append printed

end Workshop

end GlobalHotkeys
