import GlobalHotkeys.Program.Basic
import GlobalHotkeys.Simulation.Computer

namespace GlobalHotkeys.Simulation

structure ProgramStep where
  arguments : List String
  ending : Option Ending := none

structure ProgramReport where
  printed : Printed
  log : Option (List LogLine)

namespace ProgramRun

def runToEnd (step : ProgramStep) : Run Computer Printed := do
  match ← Program.launch Computer.host step.arguments with
  | .ended printed => pure printed
  | .running daemon =>
    let _ ← Daemon.finish Computer.host (step.ending.getD .terminate) daemon
    pure {}

def shownLog (arguments : List String) (lines : List LogLine) : List LogLine :=
  match CommandLine.parse arguments with
  | .error _ => []
  | .ok line => linesUpTo (Program.logLevel line) lines

def run (computer : Computer) : List ProgramStep → List ProgramReport × Computer
  | [] => ([], computer)
  | step :: rest =>
    let outcome := runToEnd step computer
    let (reports, after) := run outcome.world rest
    ({ printed := outcome.value
       log := step.ending.map fun _ => shownLog step.arguments outcome.log } :: reports, after)

end ProgramRun

end GlobalHotkeys.Simulation
