namespace GlobalHotkeys.CommandLine

inductive UsageError where
  | unknownArgument
  | unknownCommand
  | missingValue
  | unreadableValue
  | unexpectedValue
  | repeatedOption
  deriving DecidableEq, Repr

inductive Stop where
  | help
  | version
  | error (cause : UsageError)
  deriving DecidableEq, Repr

def Stop.exitCode : Stop → Nat
  | error _ => 2
  | _ => 0

inductive ValueKind where
  | text
  | path
  | number
  deriving DecidableEq, Repr

inductive OptionKind where
  | switch
  | counter
  | value (kind : ValueKind)
  | help
  | version
  deriving DecidableEq, Repr

structure OptionForm where
  name : String
  letter : Option Char := none
  kind : OptionKind
  deriving DecidableEq, Repr

def OptionForm.takesValue (form : OptionForm) : Bool :=
  match form.kind with
  | .value _ => true
  | _ => false

structure Usage where
  options : List OptionForm
  commands : List String := []

def helpCommand : String := "help"

def Usage.isCommand (usage : Usage) (argument : String) : Bool :=
  usage.commands.contains argument || (!usage.commands.isEmpty && argument == helpCommand)

def readNumber? (text : String) : Option Nat :=
  let digits := match text.toList with
    | '+' :: rest => rest
    | all => all
  let number := digits.foldl (fun value digit => value * 10 + (digit.toNat - '0'.toNat)) 0
  if !digits.isEmpty && digits.all Char.isDigit && number ≤ 18446744073709551615 then some number else none

def ValueKind.check (kind : ValueKind) (value : String) : Except Stop Unit :=
  match kind with
  | .text => .ok ()
  | .path => if value == "" then .error (.error .missingValue) else .ok ()
  | .number =>
    if (readNumber? value).isSome then .ok () else .error (.error .unreadableValue)

structure Progress where
  given : List (String × String) := []
  open? : Option (OptionForm × Option String) := none

namespace Progress

def awaitsValue (progress : Progress) : Bool :=
  match progress.open? with
  | some (_, none) => true
  | _ => false

def has (progress : Progress) (name : String) : Bool :=
  progress.given.any (·.1 == name)

def value? (progress : Progress) (name : String) : Option String :=
  progress.given.lookup name

def count (progress : Progress) (name : String) : Nat :=
  (progress.given.filter (·.1 == name)).length

def add (progress : Progress) (form : OptionForm) (value : String) : Progress :=
  { progress with given := progress.given ++ [(form.name, value)] }

def take (progress : Progress) (form : OptionForm) (value : String) : Except Stop Progress :=
  match form.kind with
  | .help => .error .help
  | .version => .error .version
  | .counter => .ok (progress.add form value)
  | .switch =>
    if progress.has form.name then .error (.error .repeatedOption)
    else .ok (progress.add form value)
  | .value kind => do
    if progress.has form.name then throw (.error .repeatedOption)
    kind.check value
    pure (progress.add form value)

def settle (progress : Progress) : Except Stop Progress :=
  match progress.open? with
  | none => .ok progress
  | some (_, none) => .error (.error .missingValue)
  | some (form, some value) => { progress with open? := none }.take form value

def readOption (progress : Progress) (form : OptionForm) (attached : Option String) :
    Except Stop Progress :=
  match form.takesValue, attached with
  | true, none => do pure { ← progress.settle with open? := some (form, none) }
  | true, some value => do (← progress.settle).take form value
  | false, none => do (← progress.settle).take form ""
  | false, some _ => .error (.error .unexpectedValue)

def readLong (options : List OptionForm) (progress : Progress) (text : List Char) :
    Except Stop Progress :=
  let (name, rest) := text.span (· != '=')
  match options.find? fun form => form.name == String.ofList name with
  | none => .error (.error .unknownArgument)
  | some form =>
    progress.readOption form (if rest.isEmpty then none else some (String.ofList (rest.drop 1)))

def attachedTo (rest : List Char) : Option String :=
  match rest with
  | [] => none
  | '=' :: value => some (String.ofList value)
  | value => some (String.ofList value)

def readLetters (options : List OptionForm) (progress : Progress) :
    List Char → Except Stop Progress
  | [] => .ok progress
  | letter :: rest =>
    match options.find? fun form => form.letter == some letter with
    | none => .error (.error .unknownArgument)
    | some form =>
      if form.takesValue then progress.readOption form (attachedTo rest)
      else do readLetters options (← progress.readOption form none) rest

end Progress

def Usage.stray (usage : Usage) (literal : Bool) (argument : String) : UsageError :=
  if usage.commands.isEmpty || (literal && usage.isCommand argument) then .unknownArgument
  else .unknownCommand

def Usage.read (usage : Usage) (progress : Progress) :
    List String → Except Stop (Progress × Option (String × List String))
  | [] => .ok (progress, none)
  | argument :: rest =>
    if !progress.awaitsValue && usage.isCommand argument then
      .ok (progress, some (argument, rest))
    else
      match argument.toList with
      | ['-', '-'] =>
        match rest with
        | [] => .ok (progress, none)
        | next :: _ => .error (.error (usage.stray true next))
      | '-' :: '-' :: text => do usage.read (← progress.readLong usage.options text) rest
      | '-' :: letter :: text => do
        usage.read (← progress.readLetters usage.options (letter :: text)) rest
      | _ =>
        match progress.open? with
        | some (form, none) => usage.read { progress with open? := some (form, some argument) } rest
        | _ => .error (.error (usage.stray false argument))

end GlobalHotkeys.CommandLine
