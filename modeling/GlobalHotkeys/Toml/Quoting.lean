import GlobalHotkeys.Toml.Scanner

namespace GlobalHotkeys.Toml

def isHexDigit (c : Char) : Bool :=
  c.isDigit || ('a' ≤ c && c ≤ 'f') || ('A' ≤ c && c ≤ 'F')

def codedChar (count : Nat) (text : List Char) : Option (Char × List Char) :=
  let written := text.take count
  let code := numberOf 16 written
  if written.length = count && written.all isHexDigit && code.isValidChar then
    some (Char.ofNat code, text.drop count)
  else none

def escaped : Scanner Char
  | 'b' :: rest => some ('\x08', rest)
  | 't' :: rest => some ('\t', rest)
  | 'n' :: rest => some ('\n', rest)
  | 'f' :: rest => some ('\x0c', rest)
  | 'r' :: rest => some ('\r', rest)
  | '"' :: rest => some ('"', rest)
  | '\\' :: rest => some ('\\', rest)
  | 'u' :: rest => codedChar 4 rest
  | 'U' :: rest => codedChar 8 rest
  | _ => none

def basicBody (text : List Char) : Option (List Char × List Char) :=
  match text with
  | [] => none
  | '"' :: rest => some ([], rest)
  | '\\' :: rest =>
    match escaped rest with
    | none => none
    | some (c, after) =>
      if after.length ≤ rest.length then
        (basicBody after).map fun (body, left) => (c :: body, left)
      else none
  | c :: rest =>
    if isControl c then none else (basicBody rest).map fun (body, left) => (c :: body, left)
termination_by text.length
decreasing_by all_goals grind

def literalBody : Scanner (List Char)
  | [] => none
  | '\'' :: rest => some ([], rest)
  | c :: rest =>
    if isControl c then none else (literalBody rest).map fun (body, left) => (c :: body, left)

/-- Up to two quotes that stand right after the three that close a text belong to it. -/
def quotesBeforeEnd (quote : Char) : List Char → List Char × List Char
  | c :: d :: rest =>
    if c = quote then if d = quote then ([c, d], rest) else ([c], d :: rest) else ([], c :: d :: rest)
  | [c] => if c = quote then ([c], []) else ([], [c])
  | [] => ([], [])

def skipBlankLines (text : List Char) : List Char :=
  let rest := skipSpaces text
  match dropNewline? rest with
  | none => rest
  | some after => if after.length < text.length then skipBlankLines after else rest
termination_by text.length

def skipLineBreak? (text : List Char) : Option (List Char) :=
  (dropNewline? (skipSpaces text)).map skipBlankLines

def basicLines (text : List Char) : Option (List Char × List Char) :=
  match text with
  | [] => none
  | '"' :: '"' :: '"' :: rest => some (quotesBeforeEnd '"' rest)
  | '\\' :: rest =>
    match skipLineBreak? rest with
    | some after => if after.length ≤ rest.length then basicLines after else none
    | none =>
      match escaped rest with
      | none => none
      | some (c, after) =>
        if after.length ≤ rest.length then
          (basicLines after).map fun (body, left) => (c :: body, left)
        else none
  | c :: rest =>
    match dropNewline? (c :: rest) with
    | some after =>
      if after.length ≤ rest.length then
        (basicLines after).map fun (body, left) => ('\n' :: body, left)
      else none
    | none =>
      if isControl c then none else (basicLines rest).map fun (body, left) => (c :: body, left)
termination_by text.length
decreasing_by all_goals grind

def literalLines (text : List Char) : Option (List Char × List Char) :=
  match text with
  | [] => none
  | '\'' :: '\'' :: '\'' :: rest => some (quotesBeforeEnd '\'' rest)
  | c :: rest =>
    match dropNewline? (c :: rest) with
    | some after =>
      if after.length ≤ rest.length then
        (literalLines after).map fun (body, left) => ('\n' :: body, left)
      else none
    | none =>
      if isControl c then none else (literalLines rest).map fun (body, left) => (c :: body, left)
termination_by text.length
decreasing_by all_goals grind

def skipNewline (text : List Char) : List Char :=
  (dropNewline? text).getD text

def quotedLine : Scanner (List Char)
  | '"' :: rest => basicBody rest
  | '\'' :: rest => literalBody rest
  | _ => none

def quotedText : Scanner (List Char)
  | '"' :: '"' :: '"' :: rest => basicLines (skipNewline rest)
  | '\'' :: '\'' :: '\'' :: rest => literalLines (skipNewline rest)
  | text => quotedLine text

end GlobalHotkeys.Toml
