import GlobalHotkeys.Key.Modifier
import GlobalHotkeys.Text.Basic

namespace GlobalHotkeys

structure Combination where
  modifiers : List String := []
  key : String := ""
  deriving DecidableEq, Repr

namespace Combination

/-- The last of the names joined by `+` is the key, the others are modifiers; a modifier named
twice counts once, where it stood first. -/
def parse (hotkey : String) : Combination :=
  let tokens := (Text.split '+' hotkey).map plainName
  { modifiers := ((tokens.dropLast.filter (· != "")).map canonicalKey).eraseDups
    key := canonicalKey (tokens.getLastD "") }

def text (combination : Combination) : String :=
  Text.join "+" (combination.modifiers ++ [combination.key])

def isBare (combination : Combination) : Bool :=
  combination.modifiers.isEmpty

/-- Whether pressing `key` with these keys held triggers the combination. Modifiers held beyond
those it names do not matter. -/
def triggeredBy (combination : Combination) (key : String) (held : Held) : Bool :=
  combination.key != "" && Text.sameUpToAsciiCase combination.key key &&
    combination.modifiers.all held.holds

def NormalName (name : String) : Prop :=
  '+' ∉ name.toList ∧ canonicalKey name = name

structure Normal (combination : Combination) : Prop where
  key : NormalName combination.key
  modifiers : ∀ modifier ∈ combination.modifiers, NormalName modifier
  nonempty : "" ∉ combination.modifiers
  distinct : combination.modifiers.Nodup

end Combination

def normalizeHotkey (hotkey : String) : String :=
  (Combination.parse hotkey).text

/-- The modifiers to name for the keys held, in the order ctrl, alt, altgr, shift, super. Only the
left Alt is `alt`. -/
def heldModifiers (held : Held) : List String :=
  (if held.isDown Side.leftCtrl.name || held.isDown Side.rightCtrl.name then ["ctrl"] else []) ++
  (if held.isDown Side.leftAlt.name then ["alt"] else []) ++
  (if held.isDown Side.rightAlt.name then ["altgr"] else []) ++
  (if held.isDown Side.leftShift.name || held.isDown Side.rightShift.name then ["shift"] else []) ++
  (if held.isDown Side.leftMeta.name || held.isDown Side.rightMeta.name then ["super"] else [])

def combinationText (key : String) (held : Held) : String :=
  Text.join "+" (heldModifiers held ++ [key])

end GlobalHotkeys
