import GlobalHotkeys.Toml.DateTime
import GlobalHotkeys.Toml.Key
import GlobalHotkeys.Toml.Number
import GlobalHotkeys.Toml.Table

/-!
Reading of TOML documents.
-/

namespace GlobalHotkeys.Toml

def plainValue (text : List Char) : Option (Value × List Char) :=
  match text with
  | 't' :: _ => (dropPrefix? ['t', 'r', 'u', 'e'] text).map (.boolean true, ·)
  | 'f' :: _ => (dropPrefix? ['f', 'a', 'l', 's', 'e'] text).map (.boolean false, ·)
  | c :: _ =>
    if c = '"' || c = '\'' then
      (quotedText text).map fun (body, rest) => (.string (String.ofList body), rest)
    else if beginsDate text || beginsTime text then dateTime text
    else number text
  | [] => none

def arrayItems (item : Scanner Value) (text : List Char) : Option (List Value × List Char) :=
  match skipLines text with
  | ']' :: rest => some ([], rest)
  | start =>
    match item start with
    | none => none
    | some (value, rest) =>
      match skipLines rest with
      | ',' :: more =>
        if more.length < text.length then
          (arrayItems item more).map fun (values, left) => (value :: values, left)
        else none
      | ']' :: left => some ([value], left)
      | _ => none
termination_by text.length

def assignment (item : Scanner Value) (text : List Char) :
    Option (((List String × String) × Value) × List Char) := do
  let (found, rest) ← key text
  let rest ← dropChar '=' rest
  let (value, rest) ← item (skipSpaces rest)
  some ((found, value), rest)

def inlineEntries (item : Scanner Value) (entries : Entries) (text : List Char) :
    Option (Entries × List Char) :=
  match assignment item text with
  | none => none
  | some (((path, last), value), rest) =>
    match addInline path last value entries with
    | none => none
    | some entries =>
      match skipSpaces rest with
      | ',' :: more =>
        if more.length < text.length then inlineEntries item entries more else none
      | '\x7d' :: left => some (entries, left)
      | _ => none
termination_by text.length

def value : Nat → Scanner Value
  | 0 => fun
    | '[' :: _ => none
    | '\x7b' :: _ => none
    | text => plainValue text
  | depth + 1 => fun
    | '[' :: rest => (arrayItems (value depth) rest).map fun (items, left) => (.array items, left)
    | '\x7b' :: rest =>
      match skipSpaces rest with
      | '\x7d' :: left => some (.inlineTable false [], left)
      | _ =>
        (inlineEntries (value depth) [] rest).map fun (entries, left) =>
          (.inlineTable false entries, left)
    | text => plainValue text

def maxDepth : Nat := 79

structure Draft where
  entries : Entries := []
  header : List String := []

def Draft.add (draft : Draft) (path : List String) (last : String) (value : Value) :
    Option Draft :=
  (changeAt false draft.header (addDotted path last value) .header draft.entries).map fun entries =>
    { draft with entries }

def Draft.enter (draft : Draft) (path : List String) (last : String) (start : String → Change) :
    Option Draft :=
  (changeAt false path (start last) .header draft.entries).map fun entries =>
    { entries, header := path ++ [last] }

def tableArrayHeader (draft : Draft) (text : List Char) : Option (Draft × List Char) := do
  let ((path, last), rest) ← key text
  let rest ← dropPrefix? [']', ']'] rest
  let rest ← dropLineEnd? rest
  let draft ← draft.enter path last beginTableArray
  some (draft, rest)

def tableHeader (draft : Draft) (text : List Char) : Option (Draft × List Char) := do
  let ((path, last), rest) ← key text
  let rest ← dropChar ']' rest
  let rest ← dropLineEnd? rest
  let draft ← draft.enter path last beginTable
  some (draft, rest)

def expression (draft : Draft) (text : List Char) : Option (Draft × List Char) :=
  match text with
  | '#' :: _ => (dropLineEnd? text).map (draft, ·)
  | '[' :: '[' :: rest => tableArrayHeader draft rest
  | '[' :: rest => tableHeader draft rest
  | _ => do
    let (((path, last), value), rest) ← assignment (value maxDepth) text
    let rest ← dropLineEnd? rest
    let draft ← draft.add path last value
    some (draft, rest)

def lines (draft : Draft) (text : List Char) : Option Draft :=
  match skipSpaces text with
  | [] => some draft
  | start =>
    match dropNewline? start with
    | some rest => if rest.length < text.length then lines draft rest else none
    | none =>
      match expression draft start with
      | none => none
      | some (draft, rest) => if rest.length < text.length then lines draft rest else none
termination_by text.length

def skipMark : List Char → List Char
  | '\uFEFF' :: rest => rest
  | text => text

def read (text : List Char) : Option Entries :=
  (lines {} (skipMark text)).map Draft.entries

end GlobalHotkeys.Toml
