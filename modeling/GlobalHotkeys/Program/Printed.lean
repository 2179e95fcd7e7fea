namespace GlobalHotkeys

structure Printed where
  exitCode : Nat := 0
  output : String := ""
  errors : String := ""
  deriving DecidableEq, Repr

namespace Printed

def unlines (lines : List String) : String :=
  String.join (lines.map (· ++ "\n"))

def ofLines (lines : List String) : Printed :=
  { output := unlines lines }

def say (printed : Printed) (lines : List String) : Printed :=
  { printed with output := printed.output ++ unlines lines }

def complain (printed : Printed) (lines : List String) : Printed :=
  { printed with errors := printed.errors ++ unlines lines }

def fail (printed : Printed) (message : String) : Printed :=
  { printed.complain ["Error: " ++ message] with exitCode := 1 }

def failure (message : String) : Printed :=
  fail {} message

def append (printed other : Printed) : Printed :=
  { printed with output := printed.output ++ other.output, errors := printed.errors ++ other.errors }

end Printed

end GlobalHotkeys
