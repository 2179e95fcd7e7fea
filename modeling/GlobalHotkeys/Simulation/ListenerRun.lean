import GlobalHotkeys.Simulation.Answer
import GlobalHotkeys.Simulation.Keyboards

namespace GlobalHotkeys.Simulation

inductive ListenerStep where
  | register (hotkey : String) (outcome : CallbackResult)
  | start
  | stop
  | supported
  | info
  | capture (limit : Duration) (inputs : List KeyInput)
  | keyboard (step : KeyboardStep)

structure ListenerDesk where
  listener : Listener ScriptedCallback := {}
  source : KeyboardSource
  record : CallbackRecord := {}

structure ListenerReport where
  answer : Answer
  listening : Bool
  hotkeys : Nat
  handles : Nat
  fired : List String
  log : List LogLine

namespace ListenerDesk

def inRecord {α : Type} : Run CallbackRecord α → Run ListenerDesk α :=
  Run.inPart ListenerDesk.record fun record desk => { desk with record }

def handle (reading : Nat × Reading) : Run ListenerDesk Unit := do
  let listener ← Run.view ListenerDesk.listener
  let (fired, after) := listener.read reading.1 reading.2
  Run.change fun desk => { desk with listener := after }
  Run.logAll (listener.readLog reading.1 reading.2)
  for registration in fired do
    dispatch registration.id (inRecord (CallbackRecord.run registration.binding))

def takeFired : Run ListenerDesk (List String) := do
  pure (sortLabels (← inRecord CallbackRecord.takeNews))

def handleInput (input : KeyInput) : Run ListenerDesk Unit := do
  match (← Run.view ListenerDesk.source).arrival input with
  | some reading => handle reading
  | none => pure ()

def performKeyboard : KeyboardStep → Run ListenerDesk Answer
  | .events inputs => do
    pure (.firedByEach (← inputs.mapM fun input => do
      handleInput input
      takeFired))
  | .burst inputs => do
    let desk ← Run.world
    let (readings, warnings) := desk.source.burst inputs
    if desk.listener.isListening then Run.logAll warnings
    readings.forM handle
    pure (.fired (← takeFired))
  | .connect count => do
    Run.change fun desk => { desk with source := desk.source.setCount count }
    pure .nothing
  | .openFailure failure => do
    Run.change fun desk => { desk with source := desk.source.setFailure failure }
    pure .nothing

def perform : ListenerStep → Run ListenerDesk Answer
  | .register hotkey outcome => do
    let listener ← Run.view ListenerDesk.listener
    match listener.register hotkey { label := hotkey, outcomes := [outcome] } with
    | .error cause => pure (.done (.error cause))
    | .ok after =>
      Run.change fun desk => { desk with listener := after }
      pure (.done (.ok ()))
  | .start => do
    let desk ← Run.world
    match desk.listener.start desk.source.openAll with
    | .error cause => pure (.done (.error cause))
    | .ok after =>
      Run.change fun desk => { desk with listener := after }
      pure (.done (.ok ()))
  | .stop => do
    Run.change fun desk => { desk with listener := desk.listener.stop }
    pure .nothing
  | .supported => Run.view fun desk => .flag desk.source.hasKeyboards
  | .info => pure (.provider ProviderKind.evdev.name true)
  | .capture limit inputs => do
    let source ← Run.view ListenerDesk.source
    inputs.forM handleInput
    pure (.captured (source.capture limit inputs))
  | .keyboard step => performKeyboard step

def report (step : ListenerStep) : Run ListenerDesk (Answer × List String) := do
  pure (← perform step, ← takeFired)

def run (desk : ListenerDesk) : List ListenerStep → List ListenerReport
  | [] => []
  | step :: rest =>
    let outcome := report step desk
    { answer := outcome.value.1
      listening := outcome.world.listener.isListening
      hotkeys := outcome.world.listener.table.length
      handles := outcome.world.listener.openKeyboards.length
      fired := outcome.value.2
      log := outcome.log } :: run outcome.world rest

end ListenerDesk

end GlobalHotkeys.Simulation
