import GlobalHotkeys.Toml.Key

namespace GlobalHotkeys.Toml

inductive Quoting where
  | basic | literal | basicLines | literalLines
  deriving DecidableEq, Repr

def longestRun (c : Char) : (run : Nat) → List Char → Nat
  | run, [] => run
  | run, d :: rest =>
    if d = c then longestRun c (run + 1) rest else max run (longestRun c 0 rest)

def hasControl (text : List Char) : Bool :=
  text.any fun c => isControl c && c != '\n'

/-- The quoting of a text: basic where nothing needs an escape, else literal where that is possible,
on one line before several, and escapes only where nothing else is left. -/
def textQuoting (text : List Char) : Quoting :=
  let lineBreak := text.contains '\n'
  let plain := !hasControl text && !text.contains '\\'
  if plain && !text.contains '"' && !lineBreak then .basic
  else if !hasControl text && !text.contains '\'' && !lineBreak then .literal
  else if plain && longestRun '"' 0 text ≤ 2 then .basicLines
  else if !hasControl text && longestRun '\'' 0 text ≤ 2 then .literalLines
  else if lineBreak then .basicLines
  else .basic

def nameQuoting (text : List Char) : Quoting :=
  let control := hasControl text || text.contains '\n'
  if !control && !text.contains '\\' && !text.contains '"' then .basic
  else if !control && !text.contains '\'' then .literal
  else .basic

def fourDigits (code : Nat) : List Char :=
  let written := (Nat.toDigits 16 code).map Char.toUpper
  List.replicate (4 - written.length) '0' ++ written

def escapeOf (c : Char) : List Char :=
  if c = '\x08' then ['\\', 'b']
  else if c = '\t' then ['\\', 't']
  else if c = '\n' then ['\\', 'n']
  else if c = '\x0c' then ['\\', 'f']
  else if c = '\r' then ['\\', 'r']
  else if c = '"' then ['\\', '"']
  else if c = '\\' then ['\\', '\\']
  else ['\\', 'u'] ++ fourDigits c.toNat

def alwaysEscaped (c : Char) : Bool :=
  isControl c && c != '\n' || c = '\t' || c = '\\'

def basicEscaped (text : List Char) : List Char :=
  text.flatMap fun c => if alwaysEscaped c || c = '"' || c = '\n' then escapeOf c else [c]

/-- The body of a basic text on several lines, where of more than two quotes in a row each third one
is escaped; `quotes` of them stand right before the text. -/
def basicLinesEscaped : (quotes : Nat) → List Char → List Char
  | _, [] => []
  | quotes, c :: rest =>
    if c = '"' then
      if quotes < 2 then c :: basicLinesEscaped (quotes + 1) rest
      else escapeOf c ++ basicLinesEscaped 0 rest
    else if alwaysEscaped c then escapeOf c ++ basicLinesEscaped 0 rest
    else c :: basicLinesEscaped 0 rest

def openingBreak (text : List Char) : List Char :=
  if text.contains '\n' then ['\n'] else []

def writeQuoted (quoting : Quoting) (text : List Char) : List Char :=
  match quoting with
  | .basic => '"' :: basicEscaped text ++ ['"']
  | .literal => '\'' :: text ++ ['\'']
  | .basicLines =>
    ['"', '"', '"'] ++ openingBreak text ++ basicLinesEscaped 0 text ++ ['"', '"', '"']
  | .literalLines => ['\'', '\'', '\''] ++ openingBreak text ++ text ++ ['\'', '\'', '\'']

def writeText (text : String) : String :=
  String.ofList (writeQuoted (textQuoting text.toList) text.toList)

def writeName (name : String) : String :=
  let text := name.toList
  if !text.isEmpty && text.all isBareChar then name
  else String.ofList (writeQuoted (nameQuoting text) text)

def writeEntry (name text : String) : String :=
  writeName name ++ " = " ++ writeText text ++ "\n"

end GlobalHotkeys.Toml
