import GlobalHotkeys.Provider.Real
import GlobalHotkeys.Simulation.Answer
import GlobalHotkeys.Simulation.Keyboards
import GlobalHotkeys.Simulation.ScriptedBus

namespace GlobalHotkeys.Simulation

structure StandInScript where
  supported : Bool := true
  starts : List (Option HotkeyError) := []
  started : Nat := 0
  reject : List String := []
  capturesKeys : Bool := false
  captured : Option (Except HotkeyError String) := none

inductive Cast where
  | genuine
  | standIn (script : StandInScript)

inductive ProviderRequest where
  | create
  | probe
  | register (hotkey : String)
  | start
  | stop
  | capture (limit : Duration)
  deriving DecidableEq, Repr

structure Stage where
  portal : Cast := .genuine
  evdev : Cast := .genuine
  bus : BusDesk
  source : KeyboardSource
  upcoming : List KeyInput := []
  record : CallbackRecord := {}
  requests : List (ProviderKind × ProviderRequest) := []

inductive Actor where
  | genuine (provider : HotkeyProvider)
  | standIn (kind : ProviderKind) (bindings : List (String × Binding))

def Actor.kind : Actor → ProviderKind
  | genuine provider => provider.kind
  | standIn kind _ => kind

namespace Stage

def cast (stage : Stage) : ProviderKind → Cast
  | .portal => stage.portal
  | .evdev => stage.evdev
  | .null => .genuine

def setCast (kind : ProviderKind) (cast : Cast) (stage : Stage) : Stage :=
  match kind with
  | .portal => { stage with portal := cast }
  | .evdev => { stage with evdev := cast }
  | .null => stage

def script (stage : Stage) (kind : ProviderKind) : StandInScript :=
  match stage.cast kind with
  | .standIn script => script
  | .genuine => {}

def inBus {α : Type} : Run BusDesk α → Run Stage α :=
  Run.inPart Stage.bus fun bus stage => { stage with bus }

def inRecord {α : Type} : Run CallbackRecord α → Run Stage α :=
  Run.inPart Stage.record fun record stage => { stage with record }

def remember (kind : ProviderKind) (request : ProviderRequest) : Run Stage Unit :=
  Run.change fun stage => { stage with requests := stage.requests ++ [(kind, request)] }

def takeRequests : Run Stage (List (ProviderKind × ProviderRequest)) := do
  let requests ← Run.view Stage.requests
  Run.change fun stage => { stage with requests := [] }
  pure requests

def machine : Machine Stage where
  bus := scriptedBus.inPart Stage.bus fun bus stage => { stage with bus }
  keyboards :=
    { present := Run.view fun stage => stage.source.hasKeyboards
      openAll := Run.view fun stage => stage.source.openAll
      listen := fun limit => Run.view fun stage => stage.source.heard limit stage.upcoming }
  environment := pure (Environment.detect fun _ => none)
  inInputGroup := true

def countStart (kind : ProviderKind) : Run Stage (Option HotkeyError) := do
  let script ← Run.view fun stage => stage.script kind
  Run.change (setCast kind (.standIn { script with started := script.started + 1 }))
  pure ((script.starts[script.started]?).getD (script.starts.getLastD none))

def registerWith (script : StandInScript) (kind : ProviderKind) (bindings : List (String × Binding))
    (hotkey : String) (binding : Binding) : Except HotkeyError Actor :=
  if script.reject.contains hotkey then .error (.unknownKey hotkey)
  else if (bindings.lookup hotkey).isSome then .error (.alreadyRegistered hotkey)
  else .ok (.standIn kind (bindings ++ [(hotkey, binding)]))

def providers : Providers Stage Actor where
  create kind := do
    remember kind .create
    match ← Run.view fun stage => stage.cast kind with
    | .genuine => pure (.genuine (.fresh kind))
    | .standIn _ => pure (.standIn kind [])
  name actor := actor.kind.name
  isSupported
    | .genuine provider => machine.providers.isSupported provider
    | .standIn kind _ => do
      remember kind .probe
      Run.view fun stage => (stage.script kind).supported
  register
    | .genuine provider, hotkey, binding => do
      pure ((← machine.providers.register provider hotkey binding).map .genuine)
    | .standIn kind bindings, hotkey, binding => do
      remember kind (.register hotkey)
      Run.view fun stage => registerWith (stage.script kind) kind bindings hotkey binding
  start
    | .genuine provider => do pure ((← machine.providers.start provider).map .genuine)
    | .standIn kind bindings => do
      remember kind .start
      match ← countStart kind with
      | some cause => pure (.error cause)
      | none => pure (.ok (.standIn kind bindings))
  stop
    | .genuine provider => machine.providers.stop provider
    | .standIn kind _ => remember kind .stop
  capturesKeys
    | .genuine provider => machine.providers.capturesKeys provider
    | .standIn kind _ => Run.view fun stage => (stage.script kind).capturesKeys
  capture
    | .genuine provider, limit => machine.providers.capture provider limit
    | .standIn kind _, limit => do
      remember kind (.capture limit)
      let script ← Run.view fun stage => stage.script kind
      pure (script.captured.getD (.error (.captureNotSupported kind.name)))

end Stage

end GlobalHotkeys.Simulation
