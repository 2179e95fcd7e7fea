import GlobalHotkeys.Hotkey.Combination
import GlobalHotkeys.Keyboard.Recognition

/-!
Hotkeys read from the keyboards themselves.

A listener reads every keyboard it opened and keeps one record of the modifiers held, whatever the
keyboard they are on. A press of another key fires each registered combination that it triggers.
What a hotkey is bound to is up to the user of the listener.
-/

namespace GlobalHotkeys

structure Registration (β : Type) where
  combination : Combination
  binding : β
  deriving DecidableEq, Repr

def Registration.id {β : Type} (registration : Registration β) : String :=
  registration.combination.text

structure Listener (β : Type) where
  table : List (Registration β) := []
  held : Held := {}
  reading : Option (List Keyboard) := none

/-- Why the listener does not take a hotkey, if it does not: a combination must end in a key with a
code that is no modifier, and name only modifiers before it. -/
def unusableHotkey? (hotkey : String) : Option HotkeyError :=
  let combination := Combination.parse hotkey
  if combination.key == "" || (keyCode? combination.key).isNone || isModifier combination.key then
    some (.unknownKey hotkey)
  else (combination.modifiers.find? fun modifier => !isModifier modifier).map .unknownKey

namespace Listener

variable {β : Type}

def isListening (listener : Listener β) : Bool :=
  listener.reading.isSome

def ids (listener : Listener β) : List String :=
  listener.table.map Registration.id

def openKeyboards (listener : Listener β) : List Keyboard :=
  listener.reading.getD []

def register (listener : Listener β) (hotkey : String) (binding : β) :
    Except HotkeyError (Listener β) :=
  match unusableHotkey? hotkey with
  | some cause => .error cause
  | none =>
    let registration : Registration β := { combination := Combination.parse hotkey, binding }
    if listener.ids.contains registration.id then .error (.alreadyRegistered registration.id)
    else .ok { listener with table := listener.table ++ [registration] }

def start (listener : Listener β) (opened : Except HotkeyError (List Keyboard)) :
    Except HotkeyError (Listener β) := do
  if listener.isListening then throw .alreadyStarted
  let keyboards ← opened
  if keyboards.isEmpty then throw .noKeyboard
  pure { listener with held := {}, reading := some keyboards }

def stop (listener : Listener β) : Listener β :=
  { listener with reading := none }

def triggered (listener : Listener β) (key : String) : List (Registration β) :=
  listener.table.filter fun registration => registration.combination.triggeredBy key listener.held

def fired (listener : Listener β) (event : KeyEvent) : List (Registration β) :=
  match event.pressedKey? with
  | some key => listener.triggered key
  | none => []

def reads (listener : Listener β) (index : Nat) : Bool :=
  listener.openKeyboards.any fun keyboard => keyboard.index == index

def without (index : Nat) (keyboards : List Keyboard) : List Keyboard :=
  keyboards.filter fun keyboard => keyboard.index != index

/-- Handle what one keyboard gave: what it fires, and the listener afterwards. A keyboard that fails
is closed; the modifiers held on it are not forgotten. -/
def read (listener : Listener β) (index : Nat) (reading : Reading) :
    List (Registration β) × Listener β :=
  if listener.reads index then
    match reading with
    | .event event => (listener.fired event, { listener with held := listener.held.track event })
    | .failure _ =>
      ([], { listener with reading := listener.reading.map (without index) })
  else ([], listener)

def readLog (listener : Listener β) (index : Nat) (reading : Reading) : List LogLine :=
  match reading with
  | .event _ => []
  | .failure reason =>
    (listener.openKeyboards.filter (·.index == index)).map fun keyboard =>
      { level := .warn, message := s!"{keyboard.name}: read failed, listener exiting: {reason}" }

end Listener

end GlobalHotkeys
