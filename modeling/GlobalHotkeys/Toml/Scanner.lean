namespace GlobalHotkeys.Toml

abbrev Scanner (α : Type) := List Char → Option (α × List Char)

def dropChar (expected : Char) : List Char → Option (List Char)
  | c :: rest => if c = expected then some rest else none
  | [] => none

def dropPrefix? (expected text : List Char) : Option (List Char) :=
  if expected.isPrefixOf text then some (text.drop expected.length) else none

def isSpace (c : Char) : Bool :=
  c = ' ' || c = '\t'

def skipSpaces (text : List Char) : List Char :=
  text.dropWhile isSpace

def isControl (c : Char) : Bool :=
  (c.toNat < 0x20 && c != '\t') || c.toNat == 0x7F

def dropNewline? : List Char → Option (List Char)
  | '\n' :: rest => some rest
  | '\r' :: '\n' :: rest => some rest
  | _ => none

def skipComment : List Char → List Char
  | '#' :: rest => rest.dropWhile fun c => !isControl c
  | text => text

def dropLineEnd? (text : List Char) : Option (List Char) :=
  match skipComment (skipSpaces text) with
  | [] => some []
  | rest => dropNewline? rest

def skipLines (text : List Char) : List Char :=
  let rest := skipSpaces text
  match dropNewline? (skipComment rest) with
  | none => rest
  | some after => if after.length < text.length then skipLines after else rest
termination_by text.length

def digits (isDigit : Char → Bool) : Scanner (List Char)
  | c :: rest =>
    if isDigit c then
      match rest with
      | '_' :: after => (digits isDigit after).map fun (more, left) => (c :: more, left)
      | d :: after =>
        if isDigit d then (digits isDigit (d :: after)).map fun (more, left) => (c :: more, left)
        else some ([c], rest)
      | [] => some ([c], [])
    else none
  | [] => none

def fixedNumber (count : Nat) (text : List Char) : Option (Nat × List Char) :=
  let taken := text.take count
  if taken.length = count && taken.all Char.isDigit then
    some (taken.foldl (fun value c => value * 10 + (c.toNat - '0'.toNat)) 0, text.drop count)
  else none

def numberOf (base : Nat) (written : List Char) : Nat :=
  written.foldl
    (fun value c =>
      let digit :=
        if c.isDigit then c.toNat - '0'.toNat else c.toLower.toNat - 'a'.toNat + 10
      value * base + digit)
    0

end GlobalHotkeys.Toml
