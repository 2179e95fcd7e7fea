import GlobalHotkeys.Capture.Validity
import GlobalHotkeys.Listener.Basic

/-!
Capturing one combination from the user.

A capture opens the keyboards anew and keeps its own record of the modifiers held. The first press
of a key that is no modifier decides it: Escape alone cancels, any other gives its combination.
-/

namespace GlobalHotkeys

structure CaptureSession where
  held : Held := {}
  reading : List Nat
  captured : Option Captured := none

namespace CaptureSession

/-- Handle what one keyboard gave. Nothing changes once a key has been captured. -/
def read (session : CaptureSession) (index : Nat) (reading : Reading) : CaptureSession :=
  if session.captured.isSome || !session.reading.contains index then session
  else
    match reading with
    | .failure _ => { session with reading := session.reading.filter (· != index) }
    | .event event =>
      match event.pressedKey? with
      | some key => { session with captured := some (capturedBy key session.held) }
      | none => { session with held := session.held.track event }

def readAll (session : CaptureSession) (readings : List (Nat × Reading)) : CaptureSession :=
  readings.foldl (fun session reading => session.read reading.1 reading.2) session

def answer (session : CaptureSession) (limit : Duration) : Except HotkeyError String :=
  match session.captured with
  | some .cancelled => .error .captureCancelled
  | some (.combination hotkey) => do
    validateCapture hotkey
    pure hotkey
  | none =>
    if session.reading.isEmpty then .error (.evdev "all keyboards closed during capture")
    else .error (.captureTimeout limit)

end CaptureSession

def captureOnce (opened : Except HotkeyError (List Keyboard)) (limit : Duration)
    (readings : List (Nat × Reading)) : Except HotkeyError String := do
  let keyboards ← opened
  if keyboards.isEmpty then throw .noKeyboard
  let session : CaptureSession := { reading := keyboards.map Keyboard.index }
  (session.readAll readings).answer limit

end GlobalHotkeys
