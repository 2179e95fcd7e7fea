import GlobalHotkeys.Simulation.Answer
import GlobalHotkeys.Simulation.Computer

namespace GlobalHotkeys.Simulation

inductive DaemonStep where
  | activate (activations : List ScriptedActivation)
  | write (content : ByteArray)
  | remove
  | losePidFile
  | blockPidFile
  | vars (vars : Variables)
  | bus (script : BusScript)
  | reload
  | finish (ending : Ending)

structure DaemonReport where
  answer : Answer
  pidFile : Option Bool
  uses : List BusUse
  log : List LogLine

namespace DaemonRun

abbrev Steps := DaemonSteps Computer HotkeyProvider

def configPath : String := inSandbox "config.toml"

def runtimePath : String := inSandbox "run"

def pidPath : String := inSandbox "run/dictkey/pid"

def startFiles (config : Option ByteArray) (runtimeIsFile pidIsDirectory : Bool) : FileTree :=
  let files := config.elim emptySandbox fun content => putText emptySandbox "config.toml" content
  let files := if runtimeIsFile then putText files "run" .empty else files
  if pidIsDirectory then (files.createDirectories pidPath).toOption.getD files else files
where
  putText (files : FileTree) (path : String) (content : ByteArray) : FileTree :=
    (place files path { content }).getD files

def onComputer {α : Type} (step : Run Computer α) : Steps α :=
  StateT.lift step

def changeFiles (change : FileTree → Except IoError FileTree) : Steps Unit :=
  onComputer (Run.change fun computer =>
    { computer with files := (change computer.files).toOption.getD computer.files })

def activate (activation : ScriptedActivation) : Steps Unit := do
  let bus ← onComputer (Run.view Computer.bus)
  Daemon.inManager (HotkeyManager.hear DaemonCallback.call
    (.signal (bus.script.activation bus.boundSession activation)))

def perform : DaemonStep → Steps Answer
  | .activate activations => do
    activations.forM activate
    pure .nothing
  | .write content => do
    changeFiles fun files => files.writeFile configPath content
    pure (.flag true)
  | .remove => do
    changeFiles fun files => files.removeFile configPath
    pure (.flag true)
  | .losePidFile => do
    changeFiles fun files => files.removeFile pidPath
    pure (.flag true)
  | .blockPidFile => do
    changeFiles fun files =>
      ((files.removeFile pidPath).toOption.getD files).createDirectories pidPath
    pure (.flag true)
  | .vars vars => do
    onComputer (Run.change fun computer => { computer with vars })
    pure .nothing
  | .bus script => do
    onComputer (Computer.inBus (Run.change fun bus => { bus with script }))
    pure .nothing
  | .reload => do
    Daemon.reload Computer.host
    pure (.flag true)
  | .finish ending => do
    Daemon.finish Computer.host ending
    pure (.text "exit")

def pidFileHolds (files : FileTree) : Option Bool :=
  (StorageStep.readText files pidPath).map (· == toString Computer.processId)

def report (answer : Answer) : Run Computer DaemonReport := do
  pure
    { answer
      pidFile := pidFileHolds (← Run.view Computer.files)
      uses := ← Computer.inBus BusDesk.takeUses
      log := [] }

def performAndReport (step : DaemonStep) : Steps DaemonReport := do
  onComputer (report (← perform step))

def DaemonStep.ends : DaemonStep → Bool
  | .finish _ => true
  | _ => false

def follow (computer : Computer) (daemon : Daemon HotkeyProvider) :
    List DaemonStep → List DaemonReport
  | [] =>
    let outcome := performAndReport (.finish .terminate) daemon computer
    [{ outcome.value.1 with log := outcome.log }]
  | step :: rest =>
    let outcome := performAndReport step daemon computer
    let (shown, after) := outcome.value
    { shown with log := outcome.log } ::
      if DaemonStep.ends step then [] else follow outcome.world after rest

def run (computer : Computer) (hotkey provider : Option String) (steps : List DaemonStep) :
    Except ConfigError (List DaemonReport) := do
  let (config, overrides) ←
    startConfig computer.vars computer.files (some configPath) hotkey provider
  let launching : Run Computer (Daemon HotkeyProvider × DaemonReport) := do
    let daemon ← Daemon.launch Computer.host config (some configPath) overrides
    pure (daemon, ← report (.flag true))
  let outcome := launching computer
  let (daemon, shown) := outcome.value
  pure ({ shown with log := outcome.log } :: follow outcome.world daemon steps)

end DaemonRun

end GlobalHotkeys.Simulation
