import NicFlow.Number.Double

/-! The shortest decimal text of a double: the fewest digits that read back as the same number, and
among those the nearest. Numbers from `0.00001` up to sixteen integer digits are written out, others
carry an exponent. -/

namespace NicFlow.Double

/-- The reals that round to a positive finite number, as numerators over one denominator. -/
structure Neighbourhood where
  low : Nat
  value : Nat
  high : Nat
  denominator : Nat
  /-- Whether the two ends still round to the number. -/
  closed : Bool

def neighbourhood (number : Double) : Neighbourhood :=
  let (mantissa, exponent) := number.parts
  let quarter := exponent - 2
  let scale := Nat.pow 2 quarter.toNat
  let below := if mantissa = 0x10000000000000 ∧ exponent > -1074 then 1 else 2
  { low := (4 * mantissa - below) * scale
    value := 4 * mantissa * scale
    high := (4 * mantissa + 2) * scale
    denominator := Nat.pow 2 (-quarter).toNat
    closed := mantissa % 2 = 0 }

/-- Whether `digits * 10 ^ exponent` lies in the neighbourhood. -/
def Neighbourhood.contains (range : Neighbourhood) (digits : Nat) (exponent : Int) : Bool :=
  let point := digits * Nat.pow 10 exponent.toNat * range.denominator
  let unit := Nat.pow 10 (-exponent).toNat
  if range.closed then range.low * unit ≤ point ∧ point ≤ range.high * unit
  else range.low * unit < point ∧ point < range.high * unit

/-- The point of the grid of multiples of `10 ^ exponent` that stands for the number, if one
does: of the two around it the nearer, on a tie the even one. -/
def Neighbourhood.onGrid (range : Neighbourhood) (exponent : Int) : Option Nat :=
  let numerator := range.value * Nat.pow 10 (-exponent).toNat
  let denominator := range.denominator * Nat.pow 10 exponent.toNat
  let below := numerator / denominator
  let nearest := roundedQuotient numerator denominator
  let other := if nearest = below then below + 1 else below
  if range.contains nearest exponent then some nearest
  else if range.contains other exponent then some other
  else none

/-- The number of decimal digits of a positive integer. -/
def digitCount (value : Nat) : Nat := (Nat.toDigits 10 value).length

/-- The exponent of the first significant decimal digit. -/
def leadingExponent (numerator denominator : Nat) : Int :=
  if denominator ≤ numerator then (digitCount (numerator / denominator) : Int) - 1
  else
    let estimate := digitCount (denominator / numerator)
    if denominator ≤ numerator * Nat.pow 10 (estimate - 1) then 1 - (estimate : Int) else -(estimate : Int)

/-- The first of the grids of 1, 2, … 17 digits that has a point for the number. -/
def firstGrid (range : Neighbourhood) (leading : Int) : Nat → Nat × Int
  | 0 => ((range.onGrid (leading - 16)).getD 0, leading - 16)
  | left + 1 =>
    let exponent := leading - (16 - (left + 1 : Nat))
    match range.onGrid exponent with
    | some digits => (digits, exponent)
    | none => firstGrid range leading left

/-- Drops trailing zeros of the digits. -/
def trimZeros (digits : Nat) (exponent : Int) : Nat → Nat × Int
  | 0 => (digits, exponent)
  | fuel + 1 =>
    if digits % 10 = 0 then trimZeros (digits / 10) (exponent + 1) fuel else (digits, exponent)

/-- The shortest digits and their exponent for a positive finite number. -/
def shortest (number : Double) : Nat × Int :=
  let range := number.neighbourhood
  let (digits, exponent) :=
    firstGrid range (leadingExponent range.value range.denominator) 16
  trimZeros digits exponent 20

def zeros (count : Nat) : String := "".pushn '0' count

/-- Digits scaled by a power of ten, written out; a whole number has no point. -/
def writtenOut (digits : Nat) (exponent : Int) : String :=
  let text := toString digits
  let leading := exponent + text.length - 1
  if 0 ≤ exponent then text ++ zeros exponent.toNat
  else if 0 ≤ leading then
    String.ofList (text.toList.take (leading.toNat + 1)) ++ "." ++
      String.ofList (text.toList.drop (leading.toNat + 1))
  else "0." ++ zeros ((-leading).toNat - 1) ++ text

/-- The text of digits and exponent: written out for first digits of exponent `-5` to `15`. -/
def layOut (digits : Nat) (exponent : Int) : String :=
  let text := toString digits
  let leading := exponent + text.length - 1
  if -5 ≤ leading ∧ leading ≤ 15 then
    writtenOut digits exponent ++ (if 0 ≤ exponent then ".0" else "")
  else
    let mantissa :=
      if text.length = 1 then text
      else String.ofList (text.toList.take 1) ++ "." ++ String.ofList (text.toList.drop 1)
    mantissa ++ (if leading < 0 then "e-" else "e+") ++ toString leading.natAbs

/-- The shortest text of a finite number, with a point or an exponent in it. -/
def render (number : Double) : String :=
  let magnitude : Double := if number.signBit then number.negate else number
  let text :=
    if magnitude = zero then "0.0"
    else layOut magnitude.shortest.1 magnitude.shortest.2
  if number.signBit then "-" ++ text else text

/-- The shortest text without an exponent; infinity has a word of its own. -/
def positional (number : Double) : String :=
  let magnitude : Double := if number.signBit then number.negate else number
  let text :=
    if ¬magnitude.isFinite then "inf"
    else if magnitude = zero then "0"
    else writtenOut magnitude.shortest.1 magnitude.shortest.2
  if number.signBit then "-" ++ text else text

end NicFlow.Double
