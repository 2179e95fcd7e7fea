import GlobalHotkeys.Portal.Basic

namespace GlobalHotkeys.Simulation

inductive ScriptedReply where
  | expected
  | path (path : String)
  | failure (cause : BusError)

structure ScriptedResponse where
  code : Nat := 0
  results : Results := []
  sender : Option String := none
  path : Option String := none
  member : String := "Response"
  malformed : Bool := false
  early : Bool := false

structure ScriptedRequest where
  reply : ScriptedReply := .expected
  responses : List ScriptedResponse := [{}]

def usualSession : String :=
  "/org/freedesktop/portal/desktop/session/1_42/dictkey"

structure BusScript where
  reachable : Bool := true
  unique : String := ":1.42"
  owner : Except BusError BusValue := .ok (.text ":1.7")
  introspection : Except BusError BusValue := .ok (.text Portal.shortcutsInterface)
  create : ScriptedRequest :=
    { responses := [{ results := [("session_handle", .text usualSession)] }] }
  bind : ScriptedRequest := {}

structure ScriptedActivation where
  id : String := ""
  session : Option String := none
  sender : Option String := none
  path : Option String := none
  interface : Option String := none
  member : Option String := none
  malformed : Bool := false

structure BusDesk where
  script : BusScript
  uses : List BusUse := []
  numbers : Nat := 0
  coming : List Signal := []
  boundSession : String := ""

namespace BusScript

def sender (script : BusScript) : String :=
  match script.owner with
  | .ok (.text name) => name
  | _ => ""

def response (script : BusScript) (path : String) (response : ScriptedResponse) : Signal :=
  { sender := response.sender.getD script.sender
    path := response.path.getD path
    interface := Portal.requestInterface
    member := response.member
    body := if response.malformed then .other else .response response.code response.results }

def activation (script : BusScript) (session : String) (activation : ScriptedActivation) :
    Signal :=
  { sender := activation.sender.getD script.sender
    path := activation.path.getD Portal.objectPath
    interface := activation.interface.getD Portal.shortcutsInterface
    member := activation.member.getD "Activated"
    body :=
      if activation.malformed then .other
      else .activated (activation.session.getD session) activation.id }

def request (script : BusScript) (request : ScriptedRequest) (token : String) :
    Exchange × List Signal :=
  let path := match request.reply with
    | .path path => path
    | _ => (Portal.requestPath script.unique token).toOption.getD ""
  let (early, late) := request.responses.partition ScriptedResponse.early
  let before := early.map (script.response path)
  match request.reply with
  | .failure cause => ({ early := before, reply := .error cause }, [])
  | _ => ({ early := before, reply := .ok (.objectPath path) }, late.map (script.response path))

end BusScript

namespace BusDesk

def remember (use : BusUse) : Run BusDesk Unit :=
  Run.change fun desk => { desk with uses := desk.uses ++ [use] }

def takeUses : Run BusDesk (List BusUse) := do
  let uses ← Run.view BusDesk.uses
  Run.change fun desk => { desk with uses := [] }
  pure uses

def answerRequest (request : ScriptedRequest) (token : String) : Run BusDesk Exchange := do
  let script ← Run.view BusDesk.script
  let (exchange, late) := script.request request token
  Run.change fun desk => { desk with coming := late }
  pure exchange

def call : BusCall → Run BusDesk Exchange
  | .nameOwner _ => Run.view fun desk => { reply := desk.script.owner }
  | .introspect _ => Run.view fun desk => { reply := desk.script.introspection }
  | .createSession token _ => do
    answerRequest (← Run.view fun desk => desk.script.create) token
  | .bindShortcuts session _ _ token => do
    Run.change fun desk => { desk with boundSession := session }
    answerRequest (← Run.view fun desk => desk.script.bind) token

def wait : Run BusDesk (List Delivery) := do
  let signals ← Run.view BusDesk.coming
  Run.change fun desk => { desk with coming := [] }
  pure (signals.map .signal)

end BusDesk

def scriptedBus : Bus BusDesk :=
  Bus.watched
    { connect := Run.view fun desk =>
        if desk.script.reachable then .ok desk.script.unique else .error .noSocket
      subscribe := fun _ => pure (.ok ())
      call := BusDesk.call
      wait := BusDesk.wait
      nextNumber := do
        let number ← Run.view BusDesk.numbers
        Run.change fun desk => { desk with numbers := number + 1 }
        pure number
      processId := 1 }
    BusDesk.remember

end GlobalHotkeys.Simulation
