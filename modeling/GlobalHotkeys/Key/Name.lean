import GlobalHotkeys.Key.Side
import GlobalHotkeys.Text.Basic
import GlobalHotkeys.Text.LowerCase

namespace GlobalHotkeys

def keyRow (first : Nat) (names : List String) : List (KeyCode × String) :=
  names.zipIdx.map fun (name, index) => (UInt16.ofNat (first + index), name)

def keyTable : List (KeyCode × String) :=
  keyRow 1 ["escape", "1", "2", "3", "4", "5", "6", "7", "8", "9", "0", "minus", "equal",
    "backspace", "tab", "q", "w", "e", "r", "t", "y", "u", "i", "o", "p", "leftbrace",
    "rightbrace", "enter", "leftctrl", "a", "s", "d", "f", "g", "h", "j", "k", "l", "semicolon",
    "apostrophe", "grave", "leftshift", "backslash", "z", "x", "c", "v", "b", "n", "m", "comma",
    "period", "slash", "rightshift", "kpasterisk", "leftalt", "space", "capslock", "f1", "f2",
    "f3", "f4", "f5", "f6", "f7", "f8", "f9", "f10", "numlock", "scrolllock"] ++
  keyRow 87 ["f11", "f12"] ++
  keyRow 96 ["kpenter", "rightctrl"] ++
  keyRow 99 ["sysrq", "rightalt"] ++
  keyRow 102 ["home", "up", "pageup", "left", "right", "end", "down", "pagedown", "insert",
    "delete"] ++
  keyRow 113 ["mute", "volumedown", "volumeup"] ++
  keyRow 119 ["pause"] ++
  keyRow 125 ["leftmeta", "rightmeta", "compose"] ++
  keyRow 163 ["nextsong", "playpause", "previoussong"] ++
  keyRow 183 ["f13", "f14", "f15", "f16", "f17", "f18", "f19", "f20", "f21", "f22", "f23", "f24"]

def keyName? (code : KeyCode) : Option String :=
  keyTable.lookup code

def codeNamed? (name : String) : Option KeyCode :=
  (keyTable.find? fun entry => entry.2 == name).map (·.1)

def keyAliases : List (String × String) :=
  [("esc", "escape"), ("return", "enter"), ("dot", "period"), ("del", "delete"),
   ("spacebar", "space"), ("backtick", "grave"), ("scroll_lock", "scrolllock"),
   ("caps_lock", "capslock"), ("num_lock", "numlock"), ("pgup", "pageup"), ("pgdn", "pagedown"),
   ("lctrl", "leftctrl"), ("rctrl", "rightctrl"), ("lshift", "leftshift"),
   ("rshift", "rightshift"), ("lalt", "leftalt"), ("ralt", "rightalt"), ("lmeta", "leftmeta"),
   ("rmeta", "rightmeta")]

def plainName (name : String) : String :=
  Text.lowerCase (Text.trim name)

def canonicalKey (name : String) : String :=
  let plain := plainName name
  (keyAliases.lookup plain).getD plain

def keyCode? (name : String) : Option KeyCode :=
  codeNamed? (canonicalKey name)

end GlobalHotkeys
