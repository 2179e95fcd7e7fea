import GlobalHotkeys.Error
import GlobalHotkeys.Hotkey.Combination

namespace GlobalHotkeys

inductive Captured where
  | combination (hotkey : String)
  | cancelled
  deriving DecidableEq, Repr

def capturedBy (key : String) (held : Held) : Captured :=
  if key == "escape" && held.isEmpty then .cancelled else .combination (combinationText key held)

def namedTypingKeys : List String :=
  ["space", "enter", "tab", "backspace", "minus", "equal", "leftbrace", "rightbrace", "semicolon",
   "apostrophe", "grave", "backslash", "comma", "period", "slash"]

def isTypingKey (name : String) : Bool :=
  let key := canonicalKey name
  key.length == 1 || namedTypingKeys.contains key

/-- Refuse a hotkey that would swallow ordinary typing: a typing key without any modifier, or no key
at all. -/
def validateCapture (hotkey : String) : Except HotkeyError Unit :=
  let combination := Combination.parse hotkey
  if combination.key == "" || (combination.isBare && isTypingKey combination.key) then
    .error (.invalidCapture hotkey)
  else .ok ()

end GlobalHotkeys
