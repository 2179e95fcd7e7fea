import GlobalHotkeys.Bus.Basic
import GlobalHotkeys.Bus.Message
import GlobalHotkeys.Error

namespace GlobalHotkeys

namespace Portal

def busName : String := "org.freedesktop.portal.Desktop"
def objectPath : String := "/org/freedesktop/portal/desktop"
def shortcutsInterface : String := "org.freedesktop.portal.GlobalShortcuts"
def requestInterface : String := "org.freedesktop.portal.Request"

def answerLimit : Nat := 5

abbrev Attempt (World : Type) := ExceptT HotkeyError (Run World)

variable {World α : Type}

def reached (answer : Except BusError α) : Attempt World α :=
  ExceptT.mk (pure (answer.mapError fun cause => .protocol cause.message))

def note (message : String) : Attempt World Unit :=
  ExceptT.lift (Run.log .debug message)

def freshToken (bus : Bus World) (kind : String) : Run World String := do
  let number ← bus.nextNumber
  pure s!"dictkey_{kind}_{bus.processId}_{number}"

def requestPath (unique token : String) : Except HotkeyError String :=
  let caller := String.ofList ((unique.toList.dropWhile (· == ':')).map fun c =>
    if c == '.' then '_' else c)
  let path := s!"{objectPath}/request/{caller}/{token}"
  if isObjectPath path then .ok path
  else .error (.protocol s!"bad request path: {path} is no object path")

def responseRule (owner path : String) : SignalRule :=
  { sender := owner, path, interface := requestInterface, member := "Response" }

def subscribe (bus : Bus World) (rule : SignalRule) : Attempt World Unit := do
  if !isBusName rule.sender then
    throw (.protocol (BusError.invalidName rule.sender).message)
  reached (← bus.subscribe rule)

def responseResult (method : String) : SignalBody → Except HotkeyError Results
  | .response 0 results => .ok results
  | .response 1 _ => .error (.protocol s!"{method}: request cancelled by the user")
  | .response code _ => .error (.protocol s!"{method}: request failed with response code {code}")
  | _ => .error (.protocol s!"{method}: {BusError.wrongType.message}")

/-- The outcome of a request whose answer fits the rule: the first such signal decides, unless the
listening fails before it. -/
def answerAmong (method : String) (rule : SignalRule) : List Delivery → Except HotkeyError Results
  | [] => .error (.protocol s!"{method}: no portal response within {answerLimit}s")
  | .signal signal :: rest =>
    if rule.accepts signal then responseResult method signal.body
    else answerAmong method rule rest
  | .failure reason :: _ => .error (.protocol s!"{method}: {reason}")
  | .closed :: _ => .error (.protocol s!"{method}: bus closed while waiting for response")

def replyPath : BusValue → Except BusError String
  | .objectPath path => .ok path
  | _ => .error .wrongType

def replyText : BusValue → Except BusError String
  | .text value => .ok value
  | _ => .error .wrongType

def request (bus : Bus World) (unique owner token method : String) (call : BusCall) :
    Attempt World Results := do
  let expected ← requestPath unique token
  subscribe bus (responseRule owner expected)
  let exchange ← bus.call call
  let path ← reached (exchange.reply.bind replyPath)
  if path == expected then
    let late ← bus.wait
    answerAmong method (responseRule owner expected) (exchange.early.map .signal ++ late)
  else
    note s!"{method} request path {path} differs from expected {expected}"
    subscribe bus (responseRule owner path)
    answerAmong method (responseRule owner path) (← bus.wait)

def findOwner (bus : Bus World) : Attempt World String := do
  let exchange ← bus.call (.nameOwner busName)
  reached (exchange.reply.bind replyText)

end Portal

end GlobalHotkeys
