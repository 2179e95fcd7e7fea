namespace GlobalHotkeys.Toml

/-- How a table came into the document, which decides who may still add to it. -/
inductive Origin where
  | header
  | implied
  | dotted
  deriving DecidableEq, Repr

inductive Value where
  | string (text : String)
  | integer (value : Int)
  | float
  | boolean (value : Bool)
  | dateTime (text : String)
  | array (items : List Value)
  | inlineTable (dotted : Bool) (entries : List (String × Value))
  | table (origin : Origin) (entries : List (String × Value))
  | tableArray (tables : List (List (String × Value)))
  deriving Inhabited

abbrev Entries := List (String × Value)

abbrev Change := Origin → Entries → Option Entries

def updateEntry (name : String) (update : Option Value → Option Value) :
    Entries → Option Entries
  | [] => (update none).map fun value => [(name, value)]
  | entry :: rest =>
    if entry.1 = name then (update (some entry.2)).map fun value => (name, value) :: rest
    else (updateEntry name update rest).map (entry :: ·)

def updateLast {α : Type} (update : α → Option α) : List α → Option (List α)
  | [] => none
  | [last] => (update last).map ([·])
  | first :: rest => (updateLast update rest).map (first :: ·)

/-- Follow `names` from a table and change the table they lead to, making those that are missing.
`dotted` tells that they are written as a dotted key, which may not enter a table with a header. -/
def changeAt (dotted : Bool) : List String → Change → Change
  | [], change => change
  | name :: names, change => fun _ entries =>
    updateEntry name
      (fun
        | none =>
          let origin := if dotted then .dotted else .implied
          (changeAt dotted names change origin []).map (.table origin)
        | some (.table origin inner) =>
          if dotted && origin == .header then none
          else (changeAt dotted names change origin inner).map (.table origin)
        | some (.tableArray tables) =>
          (updateLast (changeAt dotted names change .header) tables).map .tableArray
        | some _ => none)
      entries

def beginTable (name : String) : Change := fun _ entries =>
  updateEntry name
    (fun
      | none => some (.table .header [])
      | some (.table .implied inner) => some (.table .header inner)
      | some _ => none)
    entries

def beginTableArray (name : String) : Change := fun _ entries =>
  updateEntry name
    (fun
      | none => some (.tableArray [[]])
      | some (.tableArray tables) => some (.tableArray (tables ++ [[]]))
      | some _ => none)
    entries

def addEntry (name : String) (value : Value) : Entries → Option Entries :=
  updateEntry name fun
    | none => some value
    | some _ => none

def addDotted (names : List String) (name : String) (value : Value) : Change :=
  changeAt true names fun origin entries =>
    if (origin == .dotted) == names.isEmpty then none else addEntry name value entries

/-- Add an entry to a table in braces. Only tables that dotted keys made inside of it take more. -/
def addInline : List String → String → Value → Entries → Option Entries
  | [], name, value => addEntry name value
  | first :: names, name, value =>
    updateEntry first fun
      | none => (addInline names name value []).map (.inlineTable true)
      | some (.inlineTable true inner) => (addInline names name value inner).map (.inlineTable true)
      | some _ => none

end GlobalHotkeys.Toml
