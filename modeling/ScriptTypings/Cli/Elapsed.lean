/-! # Elapsed time

A time is shown with two places in the greatest unit that it fills. -/

namespace ScriptTypings.Cli

/-- A quotient to the nearest whole number; a half goes to the even neighbour. -/
def nearest (n d : Nat) : Nat :=
  let q := n / d
  let twice := 2 * (n % d)
  if d < twice ∨ (d = twice ∧ q % 2 = 1) then q + 1 else q

/-- A number of hundredths with two places. -/
def twoPlaces (hundredths : Nat) : String :=
  let digit (n : Nat) : String := String.ofList [Nat.digitChar (n % 10)]
  s!"{hundredths / 100}." ++ digit (hundredths / 10) ++ digit hundredths

/-- The text of a time in nanoseconds. -/
def elapsedText (nanoseconds : Nat) : String :=
  let inUnit (size : Nat) (name : String) := twoPlaces (nearest (100 * nanoseconds) size) ++ name
  if 1000000000 ≤ nanoseconds then inUnit 1000000000 "s"
  else if 1000000 ≤ nanoseconds then inUnit 1000000 "ms"
  else if 1000 ≤ nanoseconds then inUnit 1000 "µs"
  else inUnit 1 "ns"

end ScriptTypings.Cli
