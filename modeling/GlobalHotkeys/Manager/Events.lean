import GlobalHotkeys.Manager.Recording
import GlobalHotkeys.Provider.Real

namespace GlobalHotkeys

namespace HotkeyManager

variable {World κ : Type}

def withActive {P Q : Type} (manager : HotkeyManager P κ) (active : Option Q) :
    HotkeyManager Q κ :=
  { config := manager.config
    environment := manager.environment
    active
    state := manager.state
    recording := manager.recording
    callbacks := manager.callbacks
    actions := manager.actions }

def listener? (manager : HotkeyManager HotkeyProvider κ) : Option (Listener Binding) :=
  match manager.active with
  | some (.evdev listener) => some listener
  | _ => none

def portal? (manager : HotkeyManager HotkeyProvider κ) : Option (PortalProvider Binding) :=
  match manager.active with
  | some (.portal provider) => some provider
  | _ => none

def read (call : κ → Run World CallbackResult) (index : Nat) (reading : Reading) :
    Managed World HotkeyProvider κ Unit := do
  match (← get).listener? with
  | none => pure ()
  | some listener =>
    let (fired, after) := listener.read index reading
    modify fun manager => manager.withActive (some (HotkeyProvider.evdev after))
    StateT.lift (Run.logAll (listener.readLog index reading))
    for registration in fired do
      fire call registration.id registration.binding

def hear (call : κ → Run World CallbackResult) (delivery : Delivery) :
    Managed World HotkeyProvider κ Unit := do
  match (← get).portal? with
  | none => pure ()
  | some provider =>
    let (heard, after) := provider.hear delivery
    modify fun manager => manager.withActive (some (HotkeyProvider.portal after))
    StateT.lift (Run.logAll heard.log)
    match heard with
    | .activated id binding => fire call id binding
    | _ => pure ()

end HotkeyManager

end GlobalHotkeys
