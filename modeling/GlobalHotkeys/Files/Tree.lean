import GlobalHotkeys.Files.IoError
import GlobalHotkeys.Files.Path

namespace GlobalHotkeys

structure File where
  content : ByteArray
  changed : Nat := 0
  executable : Bool := false

inductive FileEntry where
  | directory
  | file (file : File)

/-- Everything below the root, each entry with the names that lead to it. A directory stands before
what it holds. -/
structure FileTree where
  entries : List (List String × FileEntry) := []
  workingDirectory : List String := []
  now : Nat := 0

namespace FileTree

def entry? (tree : FileTree) (place : List String) : Option FileEntry :=
  if place.isEmpty then some .directory else tree.entries.lookup place

def walk (tree : FileTree) : (place : List String) → List String → Except IoError (List String)
  | place, [] => .ok place
  | place, part :: rest =>
    match tree.entry? place with
    | none => .error .notFound
    | some (.file _) => .error .notADirectory
    | some .directory =>
      if part = "." then tree.walk place rest
      else if part = ".." then tree.walk place.dropLast rest
      else tree.walk (place ++ [part]) rest

def startOf (tree : FileTree) (path : String) : List String :=
  if Path.isAbsolute path then [] else tree.workingDirectory

def locate (tree : FileTree) (path : String) : Except IoError (List String) :=
  if path == "" then .error .notFound else tree.walk (tree.startOf path) (Path.parts path)

def find (tree : FileTree) (path : String) : Except IoError FileEntry := do
  match tree.entry? (← tree.locate path) with
  | some entry => pure entry
  | none => throw .notFound

def exists? (tree : FileTree) (path : String) : Bool :=
  (tree.find path).toOption.isSome

def changed? (tree : FileTree) (path : String) : Option Nat :=
  match tree.find path with
  | .ok (.file file) => some file.changed
  | .ok .directory => some tree.now
  | .error _ => none

def readFile (tree : FileTree) (path : String) : Except IoError File := do
  match ← tree.find path with
  | .file file => pure file
  | .directory => throw .isADirectory

def put (tree : FileTree) (place : List String) (entry : FileEntry) : FileTree :=
  if (tree.entry? place).isSome then
    { tree with entries := tree.entries.map fun old => if old.1 = place then (place, entry) else old }
  else { tree with entries := tree.entries ++ [(place, entry)] }

def checkHolder (tree : FileTree) (place : List String) : Except IoError Unit :=
  match tree.entry? place.dropLast with
  | some .directory => pure ()
  | some (.file _) => throw .notADirectory
  | none => throw .notFound

def writeFile (tree : FileTree) (path : String) (content : ByteArray) : Except IoError FileTree := do
  let place ← tree.locate path
  match tree.entry? place with
  | some .directory => throw .isADirectory
  | some (.file old) => pure (tree.put place (.file { old with content, changed := tree.now }))
  | none =>
    tree.checkHolder place
    pure (tree.put place (.file { content, changed := tree.now }))

def writeText (tree : FileTree) (path text : String) : Except IoError FileTree :=
  tree.writeFile path text.toUTF8

def makeDirectories (tree : FileTree) :
    (place : List String) → List String → Except IoError FileTree
  | _, [] => .ok tree
  | place, part :: rest =>
    if part = "." then tree.makeDirectories place rest
    else if part = ".." then tree.makeDirectories place.dropLast rest
    else
      let next := place ++ [part]
      match tree.entry? next with
      | some .directory => tree.makeDirectories next rest
      | some (.file _) => .error (if rest.isEmpty then .alreadyExists else .notADirectory)
      | none => (tree.put next .directory).makeDirectories next rest

def createDirectories (tree : FileTree) (path : String) : Except IoError FileTree :=
  tree.makeDirectories (tree.startOf path) (Path.parts path)

def createHolder (tree : FileTree) (path : String) : Except IoError FileTree :=
  match Path.parent? path with
  | some parent => tree.createDirectories parent
  | none => .ok tree

def removeFile (tree : FileTree) (path : String) : Except IoError FileTree := do
  let place ← tree.locate path
  match tree.entry? place with
  | some (.file _) => pure { tree with entries := tree.entries.filter (·.1 != place) }
  | some .directory => throw .isADirectory
  | none => throw .notFound

def removeDirectory (tree : FileTree) (path : String) : Except IoError FileTree := do
  let place ← tree.locate path
  match tree.entry? place with
  | some .directory => pure { tree with entries := tree.entries.filter fun old => !place.isPrefixOf old.1 }
  | some (.file _) => throw .notADirectory
  | none => throw .notFound

def list (tree : FileTree) (path : String) : Except IoError (List String) := do
  let place ← tree.locate path
  match tree.entry? place with
  | some .directory =>
    pure ((tree.entries.filter fun entry => entry.1.dropLast = place && entry.1 != []).filterMap
      fun entry => entry.1.getLast?)
  | some (.file _) => throw .notADirectory
  | none => throw .notFound

def copyFile (tree : FileTree) (source target : String) : Except IoError FileTree := do
  let file ← tree.readFile source
  let tree ← tree.writeFile target file.content
  let place ← tree.locate target
  pure (tree.put place (.file { file with changed := tree.now }))

def filesBelow (tree : FileTree) (place : List String) : List (String × File) :=
  tree.entries.filterMap fun (names, entry) =>
    match entry with
    | .file file =>
      if place.isPrefixOf names then
        some (Text.join "/" (names.drop place.length), file)
      else none
    | .directory => none

end FileTree

end GlobalHotkeys
