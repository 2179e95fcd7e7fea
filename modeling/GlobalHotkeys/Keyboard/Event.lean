import GlobalHotkeys.Key.Side
import GlobalHotkeys.Key.Modifier

namespace GlobalHotkeys

structure KeyEvent where
  code : KeyCode
  /-- 0 for a release, 1 for a press, 2 for a repeat. -/
  value : Int
  deriving DecidableEq, Repr

def keyRelease : Int := 0
def keyPress : Int := 1
def keyRepeat : Int := 2

namespace KeyEvent

def press (code : KeyCode) : KeyEvent :=
  ⟨code, keyPress⟩

def release (code : KeyCode) : KeyEvent :=
  ⟨code, keyRelease⟩

def side? (event : KeyEvent) : Option Side :=
  Side.ofCode? event.code

def pressedKey? (event : KeyEvent) : Option String :=
  if event.side?.isNone && event.value == keyPress then keyName? event.code else none

end KeyEvent

/-- The keys held after the event: a modifier key's press and release count, nothing else does. -/
def Held.track (held : Held) (event : KeyEvent) : Held :=
  match event.side? with
  | none => held
  | some side =>
    if event.value = keyPress then held.press side.name
    else if event.value = keyRelease then held.release side.name
    else held

end GlobalHotkeys
