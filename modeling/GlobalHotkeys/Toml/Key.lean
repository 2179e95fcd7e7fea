import GlobalHotkeys.Toml.Quoting

namespace GlobalHotkeys.Toml

def isBareChar (c : Char) : Bool :=
  c.isAlphanum || c = '-' || c = '_'

def name : Scanner String
  | '"' :: rest => (basicBody rest).map fun (body, left) => (String.ofList body, left)
  | '\'' :: rest => (literalBody rest).map fun (body, left) => (String.ofList body, left)
  | text =>
    let bare := text.takeWhile isBareChar
    if bare.isEmpty then none else some (String.ofList bare, text.dropWhile isBareChar)

def names (text : List Char) : Option (List String × List Char) :=
  match name (skipSpaces text) with
  | none => none
  | some (first, rest) =>
    match skipSpaces rest with
    | '.' :: more =>
      if more.length < text.length then
        (names more).map fun (others, left) => (first :: others, left)
      else none
    | left => some ([first], left)
termination_by text.length

def maxNames : Nat := 79

def key (text : List Char) : Option ((List String × String) × List Char) := do
  let (found, rest) ← names text
  let last ← found.getLast?
  if found.length ≤ maxNames then some ((found.dropLast, last), rest) else none

end GlobalHotkeys.Toml
