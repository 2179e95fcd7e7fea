namespace GlobalHotkeys

structure Duration where
  nanos : Nat
  deriving DecidableEq, Repr

namespace Duration

def ofMillis (millis : Nat) : Duration :=
  ⟨millis * 1000000⟩

def ofSeconds (seconds : Nat) : Duration :=
  ⟨seconds * 1000000000⟩

def millis (duration : Duration) : Nat :=
  duration.nanos / 1000000

def seconds (duration : Duration) : Nat :=
  duration.nanos / 1000000000

def fractionDigits : (places rest : Nat) → List Char
  | 0, _ => []
  | places + 1, rest =>
    if rest = 0 then []
    else Nat.digitChar (rest / Nat.pow 10 places) :: fractionDigits places (rest % Nat.pow 10 places)

def decimal (amount places : Nat) : String :=
  let whole := toString (amount / Nat.pow 10 places)
  match fractionDigits places (amount % Nat.pow 10 places) with
  | [] => whole
  | digits => whole ++ "." ++ String.ofList digits

/-- The exact length in the largest of the units s, ms, µs and ns that it reaches. -/
def text (duration : Duration) : String :=
  if 1000000000 ≤ duration.nanos then decimal duration.nanos 9 ++ "s"
  else if 1000000 ≤ duration.nanos then decimal duration.nanos 6 ++ "ms"
  else if 1000 ≤ duration.nanos then decimal duration.nanos 3 ++ "µs"
  else toString duration.nanos ++ "ns"

def tenths (duration : Duration) : String :=
  let count := (duration.nanos + 50000000) / 100000000
  toString (count / 10) ++ "." ++ toString (count % 10)

end Duration

end GlobalHotkeys
