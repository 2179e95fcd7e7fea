import GlobalHotkeys.Release.ManPage

namespace GlobalHotkeys

namespace Release

variable {World : Type} (shop : Workshop World)

def program : String := "dictkey"

def defaultHome : String := "/usr/local"

def extras : List String := ["README.md", "LICENSE"]

def archiveName : String := s!"{program}-linux-x86_64"

def helpText : String :=
  "
dictkey development tasks

Usage: cargo xtask <COMMAND> [OPTIONS]

Commands:
  install    Build release binary, install it and its man pages (requires sudo)
  uninstall  Remove installed binary and man pages (requires sudo)
  man        Generate man pages into target/man
  dist       Build a release tarball under target/dist

Options:
  --prefix DIR   Install prefix (default: /usr/local)
"

def binary (root : String) : String :=
  Path.join (Path.join root "target/release") program

def buildDirectory (root : String) : String :=
  Path.join root "target/release/build"

def manDirectory (root : String) : String :=
  Path.join root "target/man"

def distDirectory (root : String) : String :=
  Path.join root "target/dist"

def installedBinary (home : String) : String :=
  Path.join (Path.join home "bin") program

def installedPage (home page : String) : String :=
  Path.join (Path.join home "share/man/man1") page

def projectRoot (vars : Variables) (files : FileTree) : String :=
  let own := (vars "CARGO_MANIFEST_DIR").getD (Path.ofPlace files.workingDirectory)
  (Path.parent? own).getD own

def build (root : String) : Task World String := do
  Task.say ["==> Building release binary..."]
  let call : ToolCall :=
    { tool := "cargo", arguments := ["build", "--release", "--bin", program]
      directory := some root, vars := [("DICTKEY_GEN_MANPAGES", "1")] }
  if !(← shop.succeeds call) then throw .buildFailed
  if !(← shop.holds (binary root)) then throw (.binaryMissing (binary root))
  pure (binary root)

/-- The later of two directories with pages, each with the time of its main page. Of two of the same
time it is the one found first. -/
def later (best : Option (Nat × String)) (found : Nat × String) : Option (Nat × String) :=
  match best with
  | some (time, directory) => if found.1 > time then some found else some (time, directory)
  | none => some found

def newestPages (files : FileTree) (directories : List String) : Option String :=
  let found := directories.filterMap fun directory =>
    (files.changed? (Path.join directory ManPage.main)).map (·, directory)
  (found.foldl later none).map (·.2)

def man (root : String) : Task World String := do
  let _ ← build shop root
  let files ← shop.files
  match files.list (buildDirectory root) with
  | .error cause => throw (.io cause)
  | .ok names =>
    let made := names.map fun name => Path.join (Path.join (buildDirectory root) name) "out/man"
    match newestPages files made with
    | none => throw (.manPagesMissing (buildDirectory root))
    | some source =>
      shop.change fun files => files.createDirectories (manDirectory root)
      shop.copyPresent ManPage.all source (manDirectory root)
      pure (manDirectory root)

def privileged (arguments : List String) : Task World Unit := do
  if !(← shop.succeeds { tool := "sudo", arguments }) then
    throw (.privilegedCallFailed arguments)

def install (root home : String) : Task World Unit := do
  let pages ← man shop root
  Task.say [s!"==> Installing to {installedBinary home}..."]
  privileged shop ["install", "-Dm755", binary root, installedBinary home]
  for page in ManPage.all do
    if ← shop.holds (Path.join pages page) then
      privileged shop ["install", "-Dm644", Path.join pages page, installedPage home page]
  Task.say ["==> Installed successfully!", "", "Next: dictkey detect"]
  shop.tryCall { tool := installedBinary home, arguments := ["--version"] }

def uninstall (home : String) : Task World Unit := do
  Task.say [s!"==> Removing {installedBinary home}..."]
  privileged shop ["rm", "-f", installedBinary home]
  for page in ManPage.all do
    privileged shop ["rm", "-f", installedPage home page]
  Task.say ["==> Uninstalled successfully!"]

def dist (root : String) : Task World Unit := do
  let pages ← man shop root
  let stage := Path.join (distDirectory root) archiveName
  if ← shop.holds stage then shop.change fun files => files.removeDirectory stage
  shop.change fun files => files.createDirectories (Path.join stage "man")
  shop.copy (binary root) (Path.join stage program)
  shop.copyPresent ManPage.all pages (Path.join stage "man")
  shop.copyPresent extras root stage
  let archive := archiveName ++ ".tar.gz"
  Task.say [s!"==> Packaging {archive}..."]
  let call : ToolCall :=
    { tool := "tar", arguments := ["czf", archive, archiveName]
      directory := some (distDirectory root) }
  if !(← shop.succeeds call) then throw .archiverFailed
  Task.say [s!"Created: target/dist/{archive}"]

def homeOf : List String → String
  | option :: value :: rest =>
    if option == "--prefix" then value else homeOf (value :: rest)
  | _ => defaultHome

def help : Task World Unit :=
  Task.complain [helpText]

def perform (arguments : List String) : Task World Unit := do
  let root := projectRoot (← shop.vars) (← shop.files)
  match arguments with
  | [] => help
  | task :: _ =>
    let home := homeOf arguments
    match task with
    | "install" => install shop root home
    | "uninstall" => uninstall shop home
    | "man" =>
      let pages ← man shop root
      Task.say [s!"Man pages in {pages}"]
    | "dist" => dist shop root
    | "help" | "--help" | "-h" => help
    | other =>
      Task.complain [s!"Unknown command: {other}"]
      help
      throw .unknownTask

def run (arguments : List String) : Run World Printed :=
  Task.finish (perform shop arguments) TaskError.message

end Release

end GlobalHotkeys
