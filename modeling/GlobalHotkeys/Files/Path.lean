import GlobalHotkeys.Text.Basic

namespace GlobalHotkeys

namespace Path

def isAbsolute (path : String) : Bool :=
  path.toList.head? == some '/'

def join (base path : String) : String :=
  if isAbsolute path || base == "" then path
  else if base.toList.getLast? == some '/' then base ++ path
  else base ++ "/" ++ path

def dropSlashes (text : List Char) : List Char :=
  (text.reverse.dropWhile (· = '/')).reverse

def parent? (path : String) : Option String :=
  let text := path.toList
  let parts := dropSlashes text
  if parts.isEmpty then none
  else
    let before := (parts.reverse.dropWhile (· != '/')).reverse
    let kept := dropSlashes before
    some (if kept.isEmpty && !before.isEmpty then "/" else String.ofList kept)

def parts (path : String) : List String :=
  let pieces := Text.split '/' path
  let named := pieces.filter (· != "")
  if pieces.getLast? == some "" && !named.isEmpty then named ++ ["."] else named

def ofPlace (place : List String) : String :=
  "/" ++ Text.join "/" place

end Path

end GlobalHotkeys
