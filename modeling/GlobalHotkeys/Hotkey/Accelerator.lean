import GlobalHotkeys.Hotkey.Combination

namespace GlobalHotkeys

def acceleratorModifier (modifier : String) : String :=
  match modifier with
  | "ctrl" | "control" | "leftctrl" | "rightctrl" => "Ctrl"
  | "shift" | "leftshift" | "rightshift" => "Shift"
  | "alt" | "leftalt" => "Alt"
  | "altgr" | "rightalt" => "AltGr"
  | "super" | "meta" | "win" | "leftmeta" | "rightmeta" => "Super"
  | "hyper" => "Hyper"
  | other => other

def isFunctionKeyNumber (digits : List Char) : Bool :=
  let number := digits.foldl (fun value digit => value * 10 + (digit.toNat - '0'.toNat)) 0
  !digits.isEmpty && digits.all Char.isDigit && 1 ≤ number && number ≤ 24

/-- Whether the name is `f` and the number of a function key; leading zeros do not matter. -/
def isFunctionKey (key : String) : Bool :=
  match key.toList with
  | 'f' :: digits => isFunctionKeyNumber digits
  | _ => false

def acceleratorKey (key : String) : String :=
  match key with
  | "enter" => "Return"
  | "tab" => "Tab"
  | "escape" => "Escape"
  | "backspace" => "BackSpace"
  | "delete" => "Delete"
  | other => if isFunctionKey other then String.ofList (other.toList.map Char.toUpper) else other

def accelerator (hotkey : String) : String :=
  let combination := Combination.parse hotkey
  String.join (combination.modifiers.map fun modifier =>
    "<" ++ acceleratorModifier modifier ++ ">") ++ acceleratorKey combination.key

end GlobalHotkeys
