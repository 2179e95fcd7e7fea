import GlobalHotkeys.CommandLine.Arguments

namespace GlobalHotkeys

inductive CommandLine.Command where
  | daemon
  | capture (seconds : Nat)
  | detect (format : String)
  | config (init : Bool)
  deriving DecidableEq, Repr

structure CommandLine where
  config : Option String := none
  verbosity : Nat := 0
  quiet : Bool := false
  hotkey : Option String := none
  provider : Option String := none
  command : Option CommandLine.Command := none
  deriving DecidableEq, Repr

namespace CommandLine

def helpOption : OptionForm :=
  { name := "help", letter := some 'h', kind := .help }

def usage : Usage :=
  { options :=
      [{ name := "config", letter := some 'c', kind := .value .path },
       { name := "verbose", letter := some 'v', kind := .counter },
       { name := "quiet", letter := some 'q', kind := .switch },
       { name := "hotkey", kind := .value .text },
       { name := "provider", kind := .value .text },
       helpOption,
       { name := "version", letter := some 'V', kind := .version }]
    commands := ["daemon", "capture", "detect", "config"] }

def commandUsage (name : String) : Usage :=
  match name with
  | "capture" => { options := [{ name := "timeout", kind := .value .number }, helpOption] }
  | "detect" => { options := [{ name := "format", kind := .value .text }, helpOption] }
  | "config" => { options := [{ name := "init", kind := .switch }, helpOption] }
  | _ => { options := [helpOption] }

def defaultTimeout : Nat := 10

def maxVerbosity : Nat := 255

def commandOf (name : String) (options : Progress) : Command :=
  match name with
  | "capture" => .capture (((options.value? "timeout").bind readNumber?).getD defaultTimeout)
  | "detect" => .detect ((options.value? "format").getD "text")
  | "config" => .config (options.has "init")
  | _ => .daemon

def readCommand (name : String) (arguments : List String) : Except Stop Command := do
  let (progress, _) ← (commandUsage name).read {} arguments
  pure (commandOf name (← progress.settle))

def helpStop : List String → Stop
  | [] => .help
  | [topic] => if usage.isCommand topic then .help else .error .unknownCommand
  | _ => .error .unknownCommand

def parse (arguments : List String) : Except Stop CommandLine := do
  let (progress, found) ← usage.read {} arguments
  let command ← match found with
    | none => pure none
    | some (name, rest) =>
      if name == helpCommand then throw (helpStop rest) else some <$> readCommand name rest
  let options ← progress.settle
  pure
    { config := options.value? "config"
      verbosity := min (options.count "verbose") maxVerbosity
      quiet := options.has "quiet"
      hotkey := options.value? "hotkey"
      provider := options.value? "provider"
      command }

end CommandLine

end GlobalHotkeys
