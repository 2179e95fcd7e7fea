import GlobalHotkeys.Hotkey.Accelerator
import GlobalHotkeys.Portal.Request

/-!
Hotkeys through the desktop portal.

Starting opens a session and binds every hotkey of the table to it under its id. While a session is
open, each activation that the portal reports for it fires the hotkey of that id, if the table has
it. A start that fails leaves the provider as it was.
-/

namespace GlobalHotkeys

structure PortalSession where
  handle : String
  owner : String
  connected : Bool := true
  deriving DecidableEq, Repr

structure PortalProvider (β : Type) where
  table : List (String × β) := []
  session : Option PortalSession := none
  deriving DecidableEq, Repr

inductive Heard (β : Type) where
  | nothing
  | malformed
  | unknown (id : String)
  | activated (id : String) (binding : β)
  | failure (reason : String)
  | ended
  deriving DecidableEq, Repr

namespace Portal

def shortcut (id : String) : Shortcut :=
  { id, description := s!"dictkey: {id}", trigger := accelerator id }

def createSession {World : Type} (bus : Bus World) (unique owner : String) :
    Attempt World String := do
  let requestToken ← freshToken bus "req"
  let sessionToken ← freshToken bus "session"
  let results ← request bus unique owner requestToken "CreateSession"
    (.createSession requestToken sessionToken)
  let handle ← sessionHandle results
  note s!"Portal session created: {handle}"
  pure handle
where
  sessionHandle (results : Results) : Except HotkeyError String := do
    let handle ← match results.lookup "session_handle" with
      | some (.text handle) => pure handle
      | some (.objectPath handle) => pure handle
      | _ => throw (.protocol "CreateSession response has no session_handle")
    if isObjectPath handle then pure handle
    else throw (.protocol s!"bad session handle '{handle}': it is no object path")

def bindShortcuts {World : Type} (bus : Bus World) (unique owner session : String)
    (ids : List String) : Attempt World Unit := do
  let token ← freshToken bus "bind"
  let shortcuts := (ids.mergeSort fun first second => first ≤ second).map shortcut
  let _ ← request bus unique owner token "BindShortcuts" (.bindShortcuts session shortcuts "" token)
  note s!"Portal bound {ids.length} shortcut(s)"

def activationRule (owner : String) : SignalRule :=
  { sender := owner, path := objectPath, interface := shortcutsInterface, member := "Activated" }

def openSession {World : Type} (bus : Bus World) (ids : List String) :
    Attempt World PortalSession := do
  let unique ← reached (← bus.connect)
  let owner ← findOwner bus
  let handle ← createSession bus unique owner
  bindShortcuts bus unique owner handle ids
  subscribe bus (activationRule owner)
  ExceptT.lift (Run.log .info "Desktop portal global shortcuts active")
  pure { handle, owner }

def probe {World : Type} (bus : Bus World) : ExceptT BusError (Run World) Bool := do
  let _ ← ExceptT.mk bus.connect
  let exchange ← ExceptT.lift (bus.call (.introspect objectPath))
  let description ← exchange.reply.bind replyText
  pure (Text.contains description shortcutsInterface)

def isSupported {World : Type} (bus : Bus World) : Run World Bool := do
  match ← (probe bus).run with
  | .ok supported => pure supported
  | .error .noAnswer =>
    Run.log .debug "Portal probe timed out after 2s"
    pure false
  | .error cause =>
    Run.log .debug s!"Portal probe failed: {(HotkeyError.protocol cause.message).message}"
    pure false

end Portal

namespace PortalProvider

variable {β : Type}

def isListening (provider : PortalProvider β) : Bool :=
  provider.session.isSome

def ids (provider : PortalProvider β) : List String :=
  provider.table.map (·.1)

/-- Add a hotkey. In an open session it is bound at the next start only. -/
def register (provider : PortalProvider β) (hotkey : String) (binding : β) :
    Except HotkeyError (PortalProvider β) :=
  let id := normalizeHotkey hotkey
  if id == "" then .error (.unknownKey hotkey)
  else if provider.ids.contains id then .error (.alreadyRegistered id)
  else .ok { provider with table := provider.table ++ [(id, binding)] }

def unboundMessage (hotkey : String) : String :=
  s!"Hotkey '{normalizeHotkey hotkey}' registered while running; it is bound on next start"

def start {World : Type} (bus : Bus World) (provider : PortalProvider β) :
    Portal.Attempt World (PortalProvider β) := do
  if provider.isListening then throw .alreadyStarted
  let session ← Portal.openSession bus provider.ids
  pure { provider with session := some session }

def stop (provider : PortalProvider β) : PortalProvider β :=
  { provider with session := none }

def stopLog (provider : PortalProvider β) : List LogLine :=
  match provider.session with
  | none => []
  | some session =>
    (if session.connected then [{ level := .debug, message := "Portal listener stopping" }] else [])
      ++ [{ level := .debug, message := "Desktop portal provider stopped" }]

def activation (provider : PortalProvider β) (session : PortalSession) : SignalBody → Heard β
  | .activated handle id =>
    if handle == session.handle then
      match provider.table.lookup id with
      | some binding => .activated id binding
      | none => .unknown id
    else .nothing
  | _ => .malformed

def meaning (provider : PortalProvider β) (session : PortalSession) : Delivery → Heard β
  | .signal signal =>
    if (Portal.activationRule session.owner).accepts signal then
      provider.activation session signal.body
    else .nothing
  | .failure reason => .failure reason
  | .closed => .ended

/-- Handle what the bus delivers: what it means, and the provider afterwards. Only the end of the
connection ends the listening. -/
def hear (provider : PortalProvider β) (delivery : Delivery) : Heard β × PortalProvider β :=
  match provider.session with
  | none => (.nothing, provider)
  | some session =>
    if session.connected then
      (provider.meaning session delivery,
        if delivery == .closed then
          { provider with session := some { session with connected := false } }
        else provider)
    else (.nothing, provider)

end PortalProvider

def Heard.log {β : Type} : Heard β → List LogLine
  | nothing => []
  | malformed =>
    [{ level := .warn, message := s!"Malformed Activated signal: {BusError.wrongType.message}" }]
  | unknown id => [{ level := .debug, message := s!"Activation for unknown shortcut '{id}'" }]
  | activated id _ => [{ level := .debug, message := s!"Portal shortcut activated: {id}" }]
  | failure reason => [{ level := .warn, message := s!"Portal signal error: {reason}" }]
  | ended => [{ level := .debug, message := "Portal signal stream closed" }]

end GlobalHotkeys
