import GlobalHotkeys.CommandLine.Basic
import GlobalHotkeys.Release.Task

namespace GlobalHotkeys

namespace ManPage

def main : String := "dictkey.1"

def ofCommand (command : String) : String :=
  s!"dictkey-{command}.1"

def all : List String :=
  main :: CommandLine.usage.commands.map ofCommand

def text (page : String) : String :=
  ".TH \"" ++ page ++ "\" 1\n"

def areWanted (vars : Variables) : Bool :=
  (vars "DICTKEY_GEN_MANPAGES").isSome || vars "PROFILE" == some "release"

def directory (vars : Variables) : String :=
  Path.join ((vars "OUT_DIR").getD "target") "man"

variable {World : Type}

def write (shop : Workshop World) : Task World Unit := do
  let directory := directory (← shop.vars)
  shop.change fun files => files.createDirectories directory
  for page in all do
    shop.change fun files => files.writeText (Path.join directory page) (text page)
  Task.say [s!"cargo:warning=Man pages generated in: {directory}"]

def buildStep (shop : Workshop World) : Task World Unit := do
  Task.say ["cargo:rerun-if-changed=src/cli.rs", "cargo:rerun-if-env-changed=DICTKEY_GEN_MANPAGES"]
  if areWanted (← shop.vars) then write shop

end ManPage

end GlobalHotkeys
