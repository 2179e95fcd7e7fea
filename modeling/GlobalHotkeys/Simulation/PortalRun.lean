import GlobalHotkeys.Provider.Basic
import GlobalHotkeys.Simulation.Answer
import GlobalHotkeys.Simulation.ScriptedBus

namespace GlobalHotkeys.Simulation

inductive PortalStep where
  | register (hotkey : String) (outcome : CallbackResult)
  | start
  | stop
  | supported
  | capture
  | info
  | activate (activations : List ScriptedActivation)
  | script (script : BusScript)
  | disconnect

structure PortalDesk where
  provider : PortalProvider ScriptedCallback := {}
  bus : BusDesk
  record : CallbackRecord := {}

structure PortalReport where
  answer : Answer
  listening : Bool
  uses : List BusUse
  session : Option String
  fired : List String
  log : List LogLine

namespace PortalDesk

def inBus {α : Type} : Run BusDesk α → Run PortalDesk α :=
  Run.inPart PortalDesk.bus fun bus desk => { desk with bus }

def sessionBus : Bus PortalDesk :=
  scriptedBus.inPart PortalDesk.bus fun bus desk => { desk with bus }

def inRecord {α : Type} : Run CallbackRecord α → Run PortalDesk α :=
  Run.inPart PortalDesk.record fun record desk => { desk with record }

def deliver (delivery : Delivery) : Run PortalDesk Unit := do
  let (heard, after) ← Run.view fun desk => desk.provider.hear delivery
  Run.change fun desk => { desk with provider := after }
  Run.logAll heard.log
  match heard with
  | .activated id callback => dispatch id (inRecord (CallbackRecord.run callback))
  | _ => pure ()

def perform : PortalStep → Run PortalDesk Answer
  | .register hotkey outcome => do
    let provider ← Run.view PortalDesk.provider
    match provider.register hotkey { label := hotkey, outcomes := [outcome] } with
    | .error cause => pure (.done (.error cause))
    | .ok after =>
      if provider.isListening then
        Run.log .warn (PortalProvider.unboundMessage hotkey)
      Run.change fun desk => { desk with provider := after }
      pure (.done (.ok ()))
  | .start => do
    match ← (PortalProvider.start sessionBus (← Run.view PortalDesk.provider)).run with
    | .error cause => pure (.done (.error cause))
    | .ok after =>
      Run.change fun desk => { desk with provider := after }
      pure (.done (.ok ()))
  | .stop => do
    Run.logAll (← Run.view fun desk => desk.provider.stopLog)
    Run.change fun desk => { desk with provider := desk.provider.stop }
    pure .nothing
  | .supported => do
    pure (.flag (← Portal.isSupported sessionBus))
  | .capture => pure (.captured (.error (.captureNotSupported ProviderKind.portal.name)))
  | .info => pure (.provider ProviderKind.portal.name false)
  | .activate activations => do
    let bus ← Run.view PortalDesk.bus
    for activation in activations do
      deliver (.signal (bus.script.activation bus.boundSession activation))
    pure .nothing
  | .script script => do
    Run.change fun desk => { desk with bus := { desk.bus with script } }
    pure .nothing
  | .disconnect => do
    deliver (.failure "the connection was closed")
    deliver .closed
    pure (.flag true)

def report (step : PortalStep) : Run PortalDesk (Answer × List BusUse × List String) := do
  let answer ← perform step
  pure (answer, ← inBus BusDesk.takeUses, ← inRecord CallbackRecord.takeNews)

def run (desk : PortalDesk) : List PortalStep → List PortalReport
  | [] => []
  | step :: rest =>
    let outcome := report step desk
    let (answer, uses, fired) := outcome.value
    { answer, uses, fired
      listening := outcome.world.provider.isListening
      session := outcome.world.provider.session.map PortalSession.handle
      log := outcome.log } :: run outcome.world rest

end PortalDesk

end GlobalHotkeys.Simulation
