import GlobalHotkeys.Error
import GlobalHotkeys.Keyboard.Event
import GlobalHotkeys.Run

namespace GlobalHotkeys

/-- A keyboard says so in its name, or reports key events for the keys that typing needs, which mice
and joysticks do not. -/
def looksLikeKeyboard (name : String) (hasKeyEvents hasTypingKeys : Bool) : Bool :=
  Text.contains (Text.lowerCase name) "keyboard" || (hasKeyEvents && hasTypingKeys)

structure Keyboard where
  index : Nat
  name : String
  deriving DecidableEq, Repr

inductive Reading where
  | event (event : KeyEvent)
  | failure (reason : String)
  deriving DecidableEq, Repr

structure KeyboardAccess (World : Type) where
  present : Run World Bool
  openAll : Run World (Except HotkeyError (List Keyboard))
  listen : (limit : Duration) → Run World (List (Nat × Reading))

def KeyboardAccess.unreachable {World : Type} (cause : HotkeyError) : KeyboardAccess World where
  present := pure false
  openAll := pure (.error cause)
  listen _ := pure []

end GlobalHotkeys
