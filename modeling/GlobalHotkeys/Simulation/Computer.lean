import GlobalHotkeys.Daemon.Basic
import GlobalHotkeys.Manager.Events
import GlobalHotkeys.Program.Offline
import GlobalHotkeys.Simulation.ScriptedBus
import GlobalHotkeys.Simulation.Storage

namespace GlobalHotkeys.Simulation

structure Computer where
  files : FileTree := emptySandbox
  vars : Variables := fun _ => none
  bus : BusDesk

namespace Computer

def inBus {α : Type} : Run BusDesk α → Run Computer α :=
  Run.inPart Computer.bus fun bus computer => { computer with bus }

def machine : Machine Computer where
  bus := scriptedBus.inPart Computer.bus fun bus computer => { computer with bus }
  keyboards := .unreachable noInputDirectory
  environment := Run.view fun computer => Environment.detect computer.vars
  inInputGroup := false

def processId : Nat := 4321

def host : Host Computer HotkeyProvider where
  providers := machine.providers
  vars := Run.view Computer.vars
  files := Run.view Computer.files
  setFiles files := Run.change fun computer => { computer with files }
  processId := processId
  inInputGroup := machine.inInputGroup

end Computer

end GlobalHotkeys.Simulation
