namespace GlobalHotkeys

inductive LogLevel where
  | error | warn | info | debug | trace
  deriving DecidableEq, Repr

namespace LogLevel

def name : LogLevel → String
  | error => "ERROR"
  | warn => "WARN"
  | info => "INFO"
  | debug => "DEBUG"
  | trace => "TRACE"

def detail : LogLevel → Nat
  | error => 0
  | warn => 1
  | info => 2
  | debug => 3
  | trace => 4

end LogLevel

structure LogLine where
  level : LogLevel
  message : String
  deriving DecidableEq, Repr

def LogLine.text (line : LogLine) : String :=
  s!"{line.level.name} {line.message}"

def linesUpTo (level : LogLevel) (lines : List LogLine) : List LogLine :=
  lines.filter fun line => line.level.detail ≤ level.detail

end GlobalHotkeys
