import GlobalHotkeys.Provider.Null
import GlobalHotkeys.Run
import GlobalHotkeys.Simulation.Answer

namespace GlobalHotkeys.Simulation

inductive NullStep where
  | register (hotkey : String)
  | start
  | stop
  | capture
  | supported
  | info

structure NullReport where
  answer : Answer
  listening : Bool
  log : List LogLine

namespace NullStep

def perform : NullStep → Run NullProvider Answer
  | register hotkey => do
    Run.change fun provider => provider.register hotkey
    pure (.done (.ok ()))
  | start => do
    let provider ← Run.world
    match provider.start with
    | .error cause => pure (.done (.error cause))
    | .ok started =>
      Run.change fun _ => started
      Run.logAll (provider.startLog (Environment.detect fun _ => none) true)
      pure (.done (.ok ()))
  | stop => do
    Run.change NullProvider.stop
    pure .nothing
  | capture => pure (.captured (.error (.captureNotSupported ProviderKind.null.name)))
  | supported => pure (.flag true)
  | info => pure (.provider ProviderKind.null.name false)

def run (provider : NullProvider) : List NullStep → List NullReport
  | [] => []
  | step :: rest =>
    let outcome := perform step provider
    { answer := outcome.value, listening := outcome.world.listening, log := outcome.log } ::
      run outcome.world rest

end NullStep

end GlobalHotkeys.Simulation
