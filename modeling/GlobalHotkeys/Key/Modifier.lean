import GlobalHotkeys.Key.Name

namespace GlobalHotkeys

def genericModifiers : List String :=
  ["ctrl", "control", "alt", "altgr", "shift", "super", "meta", "win", "hyper"]

def sideModifiers : List String :=
  Side.all.map Side.name

def isModifier (name : String) : Bool :=
  genericModifiers.contains (plainName name) || sideModifiers.contains (plainName name)

def genericSides : String → Option (List Side)
  | "ctrl" | "control" => some [.leftCtrl, .rightCtrl]
  | "shift" => some [.leftShift, .rightShift]
  | "alt" => some [.leftAlt, .rightAlt]
  | "altgr" => some [.rightAlt]
  | "super" | "meta" | "win" | "hyper" => some [.leftMeta, .rightMeta]
  | _ => none

structure Held where
  down : List String := []
  deriving Repr

namespace Held

def isDown (held : Held) (name : String) : Bool :=
  held.down.contains name

def press (held : Held) (name : String) : Held :=
  if held.isDown name then held else ⟨name :: held.down⟩

def release (held : Held) (name : String) : Held :=
  ⟨held.down.filter (· != name)⟩

/-- Whether a modifier counts as held: a generic name by any of its sides, another by its name. -/
def holds (held : Held) (modifier : String) : Bool :=
  match genericSides modifier with
  | some sides => sides.any fun side => held.isDown side.name
  | none => held.isDown modifier

def isEmpty (held : Held) : Bool :=
  held.down.isEmpty

@[simp] theorem isDown_press (held : Held) (name other : String) :
    (held.press name).isDown other = (other == name || held.isDown other) := by
  rw [Bool.eq_iff_iff]
  unfold press
  split
  · by_cases same : other = name <;> simp_all
  · simp [isDown]

@[simp] theorem isDown_release (held : Held) (name other : String) :
    (held.release name).isDown other = (held.isDown other && other != name) := by
  rw [Bool.eq_iff_iff]
  simp [isDown, release]

end Held

end GlobalHotkeys
