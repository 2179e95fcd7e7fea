import GlobalHotkeys.Toml.Scanner
import GlobalHotkeys.Toml.Table

namespace GlobalHotkeys.Toml

def isLeapYear (year : Nat) : Bool :=
  year % 4 == 0 && (year % 100 != 0 || year % 400 == 0)

def daysInMonth (year month : Nat) : Nat :=
  match month with
  | 2 => if isLeapYear year then 29 else 28
  | 4 | 6 | 9 | 11 => 30
  | _ => 31

def boundedNumber (count low high : Nat) (text : List Char) : Option (Nat × List Char) := do
  let (value, rest) ← fixedNumber count text
  if low ≤ value && value ≤ high then some (value, rest) else none

def padded (count value : Nat) : String :=
  let written := Nat.toDigits 10 value
  String.ofList (List.replicate (count - written.length) '0' ++ written)

def date (text : List Char) : Option (String × List Char) := do
  let (year, rest) ← fixedNumber 4 text
  let rest ← dropChar '-' rest
  let (month, rest) ← boundedNumber 2 1 12 rest
  let rest ← dropChar '-' rest
  let (day, rest) ← boundedNumber 2 1 (daysInMonth year month) rest
  some (padded 4 year ++ "-" ++ padded 2 month ++ "-" ++ padded 2 day, rest)

def secondPart : Scanner String
  | '.' :: rest =>
    let written := rest.takeWhile Char.isDigit
    if written.isEmpty then none
    else
      let kept := ((written.take 9).reverse.dropWhile (· = '0')).reverse
      some (if kept.isEmpty then "" else "." ++ String.ofList kept, rest.dropWhile Char.isDigit)
  | text => some ("", text)

def time (text : List Char) : Option (String × List Char) := do
  let (hour, rest) ← boundedNumber 2 0 23 text
  let rest ← dropChar ':' rest
  let (minute, rest) ← boundedNumber 2 0 59 rest
  let rest ← dropChar ':' rest
  let (second, rest) ← boundedNumber 2 0 60 rest
  let (part, rest) ← secondPart rest
  some (padded 2 hour ++ ":" ++ padded 2 minute ++ ":" ++ padded 2 second ++ part, rest)

def zone : Scanner String
  | c :: rest =>
    if c = 'Z' || c = 'z' then some ("Z", rest)
    else if c = '+' || c = '-' then do
      let (hour, rest) ← boundedNumber 2 0 23 rest
      let rest ← dropChar ':' rest
      let (minute, rest) ← boundedNumber 2 0 59 rest
      let sign := if c = '-' && hour + minute != 0 then "-" else "+"
      some (sign ++ padded 2 hour ++ ":" ++ padded 2 minute, rest)
    else some ("", c :: rest)
  | [] => some ("", [])

def beginsTime (text : List Char) : Bool :=
  match boundedNumber 2 0 23 text with
  | some (_, ':' :: _) => true
  | _ => false

def beginsDate (text : List Char) : Bool :=
  match fixedNumber 4 text with
  | some (_, '-' :: _) => true
  | _ => false

def dateTime (text : List Char) : Option (Value × List Char) :=
  if beginsDate text then do
    let (day, rest) ← date text
    match rest with
    | c :: behind =>
      if (c = 'T' || c = 't' || c = ' ') && beginsTime behind then do
        let (clock, rest) ← time behind
        let (offset, rest) ← zone rest
        some (.dateTime (day ++ "T" ++ clock ++ offset), rest)
      else some (.dateTime day, rest)
    | [] => some (.dateTime day, [])
  else (time text).map fun (clock, rest) => (.dateTime clock, rest)

end GlobalHotkeys.Toml
