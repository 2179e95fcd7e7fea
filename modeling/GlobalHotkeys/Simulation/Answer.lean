import GlobalHotkeys.Provider.Selection

namespace GlobalHotkeys.Simulation

inductive Answer where
  | nothing
  | flag (value : Bool)
  | text (value : String)
  | done (result : Except HotkeyError Unit)
  | captured (result : Except HotkeyError String)
  | provider (name : String) (captures : Bool)
  | firedByEach (labels : List (List String))
  | fired (labels : List String)
  | callbackFailed (failure : String)
  | supported (portal evdev : Bool)
  | environment (environment : Environment)

def Answer.showsFired : Answer → Bool
  | firedByEach _ => true
  | fired _ => true
  | _ => false

structure ScriptedCallback where
  label : String
  number : Nat := 0
  outcomes : List CallbackResult := []
  deriving DecidableEq

structure CallbackRecord where
  calls : List (String × Nat) := []
  reported : Nat := 0

namespace CallbackRecord

def add (record : CallbackRecord) (callback : ScriptedCallback) : CallbackRecord :=
  { record with calls := record.calls ++ [(callback.label, callback.number)] }

def count (record : CallbackRecord) (callback : ScriptedCallback) : Nat :=
  record.calls.count (callback.label, callback.number)

def outcome (callback : ScriptedCallback) (before : Nat) : CallbackResult :=
  (callback.outcomes[before]?).getD (callback.outcomes.getLastD none)

def run (callback : ScriptedCallback) : Run CallbackRecord CallbackResult := do
  let before ← Run.view fun record => record.count callback
  Run.change fun record => record.add callback
  pure (outcome callback before)

def takeNews : Run CallbackRecord (List String) := do
  let news ← Run.view fun record => (record.calls.drop record.reported).map (·.1)
  Run.change fun record => { record with reported := record.calls.length }
  pure news

end CallbackRecord

def sortLabels (labels : List String) : List String :=
  labels.mergeSort fun first second => first ≤ second

end GlobalHotkeys.Simulation
