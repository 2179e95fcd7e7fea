import GlobalHotkeys.Manager.Events
import GlobalHotkeys.Simulation.Answer
import GlobalHotkeys.Simulation.StandIn

namespace GlobalHotkeys.Simulation

inductive ManagerStep where
  | start
  | stop
  | reload (config : HotkeyConfig)
  | callbacks (onStart onStop : List CallbackResult)
  | action (name : String) (outcome : CallbackResult)
  | fire (hotkey : String)
  | capture (limit : Duration) (inputs : List KeyInput)
  | probe
  | script (kind : ProviderKind) (script : StandInScript)
  | bus (script : BusScript)
  | activate (activations : List ScriptedActivation)
  | environment
  | keyboard (step : KeyboardStep)

def ManagerStep.inOrder : ManagerStep → Bool
  | fire _ => true
  | activate _ => true
  | _ => false

abbrev ManagerSteps := Managed Stage Actor ScriptedCallback

structure ManagerReport where
  answer : Answer
  requests : List (ProviderKind × ProviderRequest)
  fired : List String
  state : ManagerState
  active : Option String
  recording : Bool
  canCapture : Bool
  handles : Nat
  uses : List BusUse
  log : List LogLine

namespace ManagerSteps

def onStage {α : Type} (step : Run Stage α) : ManagerSteps α :=
  StateT.lift step

def call (callback : ScriptedCallback) : Run Stage CallbackResult :=
  Stage.inRecord (CallbackRecord.run callback)

def whileGenuine (step : Managed Stage HotkeyProvider ScriptedCallback Unit) :
    ManagerSteps Unit := do
  let manager ← get
  match manager.active with
  | some (.genuine provider) =>
    let ((), after) ← onStage (step (manager.withActive (some provider)))
    set (after.withActive (after.active.map Actor.genuine))
  | _ => pure ()

def listener? : ManagerSteps (Option (Listener Binding)) := do
  match (← get).active with
  | some (.genuine (.evdev listener)) => pure (some listener)
  | _ => pure none

def handle (reading : Nat × Reading) : ManagerSteps Unit :=
  whileGenuine (HotkeyManager.read call reading.1 reading.2)

def handleInput (input : KeyInput) : ManagerSteps Unit := do
  match (← onStage (Run.view Stage.source)).arrival input with
  | some reading => handle reading
  | none => pure ()

def takeFired (inOrder : Bool) : ManagerSteps (List String) := do
  let labels ← onStage (Stage.inRecord CallbackRecord.takeNews)
  pure (if inOrder then labels else sortLabels labels)

def fire (hotkey : String) : ManagerSteps Answer := do
  match (← get).active with
  | some (.standIn _ bindings) =>
    match bindings.lookup hotkey with
    | none => pure (.text "unbound")
    | some binding =>
      match ← HotkeyManager.press call binding with
      | none => pure (.text "ok")
      | some reasons => pure (.callbackFailed (failureChain reasons))
  | _ => pure (.text "unbound")

def performKeyboard : KeyboardStep → ManagerSteps Answer
  | .events inputs => do
    pure (.firedByEach (← inputs.mapM fun input => do
      handleInput input
      takeFired false))
  | .burst inputs => do
    let source ← onStage (Run.view Stage.source)
    let (readings, warnings) := source.burst inputs
    if (← listener?).isSome then onStage (Run.logAll warnings)
    readings.forM handle
    pure (.fired (← takeFired false))
  | .connect count => do
    onStage (Run.change fun stage => { stage with source := stage.source.setCount count })
    pure .nothing
  | .openFailure failure => do
    onStage (Run.change fun stage => { stage with source := stage.source.setFailure failure })
    pure .nothing

def perform (number : Nat) : ManagerStep → ManagerSteps Answer
  | .start => do pure (.done (← HotkeyManager.start Stage.providers))
  | .stop => do
    HotkeyManager.stop Stage.providers
    pure .nothing
  | .reload config => do pure (.done (← HotkeyManager.reload Stage.providers config))
  | .callbacks onStart onStop => do
    modify fun manager => manager.setCallbacks
      { onStart := { label := "on_start", number, outcomes := onStart }
        onStop := { label := "on_stop", number, outcomes := onStop } }
    pure .nothing
  | .action name outcome => do
    let callback : ScriptedCallback := { label := s!"action:{name}", number, outcomes := [outcome] }
    pure (.done (← HotkeyManager.addAction Stage.providers name callback))
  | .fire hotkey => fire hotkey
  | .capture limit inputs => do
    onStage (Run.change fun stage => { stage with upcoming := inputs })
    inputs.forM handleInput
    pure (.captured (← onStage (HotkeyManager.capture Stage.providers (← get) limit)))
  | .probe => do
    let supported ← onStage (HotkeyManager.probe Stage.providers (← get).environment)
    pure (.supported supported.portal supported.evdev)
  | .script kind script => do
    onStage (Run.change (Stage.setCast kind (.standIn script)))
    pure .nothing
  | .bus script => do
    onStage (Stage.inBus (Run.change fun bus => { bus with script }))
    pure .nothing
  | .activate activations => do
    let bus ← onStage (Run.view Stage.bus)
    for activation in activations do
      whileGenuine (HotkeyManager.hear call
        (.signal (bus.script.activation bus.boundSession activation)))
    pure .nothing
  | .environment => do pure (.environment (← get).environment)
  | .keyboard step => performKeyboard step

def report (number : Nat) (step : ManagerStep) : ManagerSteps ManagerReport := do
  let answer ← perform number step
  let fired ← takeFired step.inOrder
  let manager ← get
  let listener ← listener?
  pure
    { answer, fired
      requests := ← onStage Stage.takeRequests
      state := manager.state
      active := manager.activeName? Stage.providers
      recording := manager.recording
      canCapture := ← onStage (manager.canCapture Stage.providers)
      handles := (listener.map fun listener => listener.openKeyboards.length).getD 0
      uses := ← onStage (Stage.inBus BusDesk.takeUses)
      log := [] }

def run (stage : Stage) (manager : HotkeyManager Actor ScriptedCallback) (number : Nat) :
    List ManagerStep → List ManagerReport
  | [] => []
  | step :: rest =>
    let outcome := report number step manager stage
    let (shown, after) := outcome.value
    { shown with log := outcome.log } :: run outcome.world after (number + 1) rest

end ManagerSteps

end GlobalHotkeys.Simulation
