import GlobalHotkeys.Manager.Basic

namespace GlobalHotkeys

/-- The flag once a press that found it as `before` has heard from its callback; `now` is what it
is by then. -/
def settledFlag (before : Bool) (result : CallbackResult) (now : Bool) : Bool :=
  if result.isSome then before else now

namespace HotkeyManager

variable {World P κ : Type}

def recordingCallback? (manager : HotkeyManager P κ) (recording : Bool) : Option κ :=
  manager.callbacks.map fun callbacks =>
    if recording then callbacks.onStop else callbacks.onStart

def turnOver : Managed World P κ Bool := do
  let before := (← get).recording
  modify fun manager => { manager with recording := !before }
  note .info (if before then "Recording stopped" else "Recording started")
  pure before

def settle (before : Bool) (result : CallbackResult) : Managed World P κ Unit :=
  modify fun manager => { manager with recording := settledFlag before result manager.recording }

def pressRecording (call : κ → Run World CallbackResult) : Managed World P κ CallbackResult := do
  let before ← turnOver
  match (← get).recordingCallback? before with
  | none => pure none
  | some callback =>
    let result ← call callback
    settle before result
    pure result

def press (call : κ → Run World CallbackResult) :
    Binding → Managed World P κ CallbackResult
  | .recording => pressRecording call
  | .action name => do
    match (← get).actions.get? name with
    | some callback => call callback
    | none => pure none

def fire (call : κ → Run World CallbackResult) (id : String) (binding : Binding) :
    Managed World P κ Unit := do
  match ← press call binding with
  | none => pure ()
  | some reasons => note .warn (callbackFailureMessage id reasons)

end HotkeyManager

end GlobalHotkeys
