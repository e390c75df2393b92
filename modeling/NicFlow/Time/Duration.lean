import NicFlow.Text.Quoted

/-! Spans of time in whole nanoseconds. They saturate just below `2 ^ 64` seconds. -/

namespace NicFlow

structure Duration where
  nanoseconds : Nat
deriving DecidableEq, Repr

namespace Duration

def zero : Duration := ⟨0⟩

/-- The longest span. -/
def max : Duration := ⟨0x10000000000000000 * 1000000000 - 1⟩

def ofSeconds (seconds : Nat) : Duration := ⟨seconds * 1000000000⟩

def ofMilliseconds (milliseconds : Nat) : Duration := ⟨milliseconds * 1000000⟩

def saturated (nanoseconds : Nat) : Duration := ⟨min nanoseconds max.nanoseconds⟩

def add (left right : Duration) : Duration := saturated (left.nanoseconds + right.nanoseconds)

def scale (duration : Duration) (factor : Nat) : Duration := saturated (duration.nanoseconds * factor)

/-- A number of units, with the part of a unit in as few decimal digits as it needs. -/
def decimal (value unit : Nat) (digits : Nat) (suffix : String) : String :=
  let padded := (Text.decimal digits (value % unit)).toList
  let trimmed := (padded.reverse.dropWhile (· = '0')).reverse
  toString (value / unit) ++ (if trimmed.isEmpty then "" else "." ++ String.ofList trimmed) ++ suffix

/-- The span in the largest unit of which it has a whole one. -/
def render (duration : Duration) : String :=
  let value := duration.nanoseconds
  if 1000000000 ≤ value then decimal value (1000000000) 9 "s"
  else if 1000000 ≤ value then decimal value (1000000) 6 "ms"
  else if 1000 ≤ value then decimal value (1000) 3 "µs"
  else decimal value 1 0 "ns"

/-- The span in seconds with all nine digits of the part of a second. -/
def renderSeconds (duration : Duration) : String :=
  toString (duration.nanoseconds / 1000000000) ++ "." ++ Text.decimal 9 (duration.nanoseconds % 1000000000)

end Duration

end NicFlow
