import GlobalHotkeys.Files.IoError
import GlobalHotkeys.Text.Basic

namespace GlobalHotkeys

def isPathElement (element : String) : Bool :=
  element != "" && element.toList.all fun c => c.isAlphanum || c == '_'

def isObjectPath (path : String) : Bool :=
  path == "/" ||
    match Text.split '/' path with
    | "" :: first :: rest => (first :: rest).all isPathElement
    | _ => false

def isNameElement (element : String) : Bool :=
  element != "" && element.toList.all fun c => c.isAlphanum || c == '_' || c == '-'

def isBusName (name : String) : Bool :=
  name.utf8ByteSize ≤ 255 &&
    match name.toList with
    | ':' :: rest =>
      let elements := Text.split '.' (String.ofList rest)
      2 ≤ elements.length && elements.all isNameElement
    | _ =>
      let elements := Text.split '.' name
      2 ≤ elements.length && elements.all fun element =>
        isNameElement element && !(element.toList.head?.any Char.isDigit)

inductive BusValue where
  | text (value : String)
  | objectPath (path : String)
  | other
  deriving DecidableEq, Repr

abbrev Results := List (String × BusValue)

inductive SignalBody where
  | response (code : Nat) (results : Results)
  | activated (session id : String)
  | other
  deriving DecidableEq, Repr

structure Signal where
  sender : String
  path : String
  interface : String
  member : String
  body : SignalBody
  deriving DecidableEq, Repr

structure SignalRule where
  sender : String
  path : String
  interface : String
  member : String
  deriving DecidableEq, Repr

def SignalRule.accepts (rule : SignalRule) (signal : Signal) : Bool :=
  signal.sender == rule.sender && signal.path == rule.path &&
    signal.interface == rule.interface && signal.member == rule.member

inductive Delivery where
  | signal (signal : Signal)
  | failure (reason : String)
  | closed
  deriving DecidableEq, Repr

structure Shortcut where
  id : String
  description : String
  trigger : String
  deriving DecidableEq, Repr

inductive BusCall where
  | nameOwner (name : String)
  | introspect (path : String)
  | createSession (requestToken sessionToken : String)
  | bindShortcuts (session : String) (shortcuts : List Shortcut) (parentWindow requestToken : String)
  deriving DecidableEq, Repr

inductive BusError where
  | unreachable (cause : String)
  | refused (name : String) (details : Option String)
  | wrongType
  | noAnswer
  | invalidName (name : String)
  deriving DecidableEq, Repr

def BusError.noSocket : BusError :=
  .unreachable IoError.notFound.message

def wrongTypeMessage : String :=
  "Signature mismatch"

def BusError.message : BusError → String
  | unreachable cause => s!"I/O error: {cause}"
  | refused name details => name ++ ": " ++ details.getD "no details"
  | wrongType => wrongTypeMessage
  | noAnswer => "no answer"
  | invalidName name => s!"Invalid bus name: {name}"

end GlobalHotkeys
