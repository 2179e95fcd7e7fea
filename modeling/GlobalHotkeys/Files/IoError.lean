namespace GlobalHotkeys

inductive IoError where
  | notFound | permissionDenied | alreadyExists | notADirectory | isADirectory | directoryNotEmpty
  deriving DecidableEq, Repr

namespace IoError

def number : IoError → Nat
  | notFound => 2
  | permissionDenied => 13
  | alreadyExists => 17
  | notADirectory => 20
  | isADirectory => 21
  | directoryNotEmpty => 39

def reason : IoError → String
  | notFound => "No such file or directory"
  | permissionDenied => "Permission denied"
  | alreadyExists => "File exists"
  | notADirectory => "Not a directory"
  | isADirectory => "Is a directory"
  | directoryNotEmpty => "Directory not empty"

def message (error : IoError) : String :=
  s!"{error.reason} (os error {error.number})"

def label : IoError → String
  | notFound => "NotFound"
  | permissionDenied => "PermissionDenied"
  | alreadyExists => "AlreadyExists"
  | notADirectory => "NotADirectory"
  | isADirectory => "IsADirectory"
  | directoryNotEmpty => "DirectoryNotEmpty"

def diagnostic (error : IoError) : String :=
  s!"Os \x7b code: {error.number}, kind: {error.label}, message: \"{error.reason}\" \x7d"

end IoError

end GlobalHotkeys
