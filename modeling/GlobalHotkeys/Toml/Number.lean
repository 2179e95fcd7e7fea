import GlobalHotkeys.Toml.Scanner
import GlobalHotkeys.Toml.Table

namespace GlobalHotkeys.Toml

structure DecimalStart where
  negative : Bool
  digits : List Char

def unsignedStart : Scanner (List Char)
  | '0' :: rest => some (['0'], rest)
  | text => digits Char.isDigit text

def decimalStart : Scanner DecimalStart
  | '+' :: rest => (unsignedStart rest).map fun (digits, left) => (⟨false, digits⟩, left)
  | '-' :: rest => (unsignedStart rest).map fun (digits, left) => (⟨true, digits⟩, left)
  | text => (unsignedStart text).map fun (digits, left) => (⟨false, digits⟩, left)

def inRange (value : Int) : Bool :=
  -9223372036854775808 ≤ value && value ≤ 9223372036854775807

def integerOf (value : Int) (rest : List Char) : Option (Value × List Char) :=
  if inRange value then some (.integer value, rest) else none

def integer : Scanner Value
  | '0' :: 'x' :: rest => do
    let (written, left) ← digits (fun c => c.isDigit || ('a' ≤ c.toLower && c.toLower ≤ 'f')) rest
    integerOf (numberOf 16 written) left
  | '0' :: 'o' :: rest => do
    let (written, left) ← digits (fun c => '0' ≤ c && c ≤ '7') rest
    integerOf (numberOf 8 written) left
  | '0' :: 'b' :: rest => do
    let (written, left) ← digits (fun c => c = '0' || c = '1') rest
    integerOf (numberOf 2 written) left
  | text => do
    let (start, left) ← decimalStart text
    let size : Int := numberOf 10 start.digits
    integerOf (if start.negative then -size else size) left

def exponent : Scanner Int
  | c :: rest =>
    if c = 'e' || c = 'E' then do
      let (negative, text) := match rest with
        | '+' :: more => (false, more)
        | '-' :: more => (true, more)
        | more => (false, more)
      let (written, left) ← digits Char.isDigit text
      let size : Int := numberOf 10 written
      some (if negative then -size else size, left)
    else some (0, c :: rest)
  | [] => some (0, [])

/-- Whether `mantissa * 10 ^ power` rounds to a finite double: it has to lie below the middle between
the largest double and the next power of two. -/
def roundsToFinite (mantissa : Nat) (power : Int) : Bool :=
  let limit := Nat.pow 2 1024 - Nat.pow 2 970
  let places := (Nat.toDigits 10 mantissa).length
  if mantissa = 0 then true
  else if (places : Int) + power < 300 then true
  else if 400 < (places : Int) + power then false
  else if 0 ≤ power then mantissa * Nat.pow 10 power.toNat < limit
  else mantissa < limit * Nat.pow 10 (-power).toNat

def dropSpecial? (text : List Char) : Option (List Char) :=
  dropPrefix? ['i', 'n', 'f'] text <|> dropPrefix? ['n', 'a', 'n'] text

def specialFloat : Scanner Value
  | '+' :: rest => (dropSpecial? rest).map (.float, ·)
  | '-' :: rest => (dropSpecial? rest).map (.float, ·)
  | text => (dropSpecial? text).map (.float, ·)

def fraction : Scanner (List Char)
  | '.' :: rest => digits Char.isDigit rest
  | text => some ([], text)

def continuesAsFloat : List Char → Bool
  | c :: _ => c = '.' || c = 'e' || c = 'E'
  | [] => false

def number (text : List Char) : Option (Value × List Char) :=
  match decimalStart text with
  | none => specialFloat text
  | some (start, rest) =>
    if continuesAsFloat rest then do
      let (places, rest) ← fraction rest
      let (power, rest) ← exponent rest
      let finite := roundsToFinite (numberOf 10 (start.digits ++ places)) (power - places.length)
      if start.negative || finite then some (.float, rest) else none
    else integer text

end GlobalHotkeys.Toml
