import GlobalHotkeys.Duration
import GlobalHotkeys.Provider.Basic

namespace GlobalHotkeys

inductive ManagerState where
  | uninitialized
  | providerSelected (provider : ProviderKind)
  | fallbackAttempted (first second : ProviderKind)
  | listening (provider : ProviderKind)
  | failed (reason : String)
  | stopped
  deriving DecidableEq, Repr

namespace ManagerState

def isListening : ManagerState → Bool
  | listening _ => true
  | _ => false

def isFailed : ManagerState → Bool
  | failed _ => true
  | _ => false

def provider? : ManagerState → Option ProviderKind
  | providerSelected provider => some provider
  | fallbackAttempted _ second => some second
  | listening provider => some provider
  | _ => none

def text (elapsed : Duration) : ManagerState → String
  | uninitialized => "Uninitialized"
  | providerSelected provider => s!"Provider selected ({provider.name})"
  | fallbackAttempted first second => s!"Falling back ({first.name} → {second.name})"
  | listening provider => s!"Listening ({provider.name}, {elapsed.tenths}s)"
  | failed reason => s!"Failed: {reason}"
  | stopped => "Stopped"

end ManagerState

end GlobalHotkeys
