namespace GlobalHotkeys

abbrev KeyCode := UInt16

inductive Side where
  | leftCtrl | rightCtrl | leftShift | rightShift | leftAlt | rightAlt | leftMeta | rightMeta
  deriving DecidableEq, Repr

namespace Side

def all : List Side :=
  [leftCtrl, rightCtrl, leftShift, rightShift, leftAlt, rightAlt, leftMeta, rightMeta]

def name : Side → String
  | leftCtrl => "leftctrl"
  | rightCtrl => "rightctrl"
  | leftShift => "leftshift"
  | rightShift => "rightshift"
  | leftAlt => "leftalt"
  | rightAlt => "rightalt"
  | leftMeta => "leftmeta"
  | rightMeta => "rightmeta"

def code : Side → KeyCode
  | leftCtrl => 29
  | rightCtrl => 97
  | leftShift => 42
  | rightShift => 54
  | leftAlt => 56
  | rightAlt => 100
  | leftMeta => 125
  | rightMeta => 126

def ofCode? (code : KeyCode) : Option Side :=
  all.find? fun side => side.code == code

theorem mem_all (side : Side) : side ∈ all := by
  cases side <;> decide

theorem ofCode?_code (side : Side) : ofCode? side.code = some side := by
  cases side <;> decide

theorem code_of_ofCode? {code : KeyCode} {side : Side} (found : ofCode? code = some side) :
    side.code = code := by
  simpa using List.find?_some found

end Side

end GlobalHotkeys
