/-! Binary floating point numbers of 64 bits, kept as their bit pattern and computed with exact
integer arithmetic. Every operation rounds its exact result once, to the nearest number and on a
tie to the even one. -/

namespace NicFlow

/-- A 64 bit binary floating point number: one sign bit, eleven exponent bits, 52 fraction bits. -/
structure Double where
  bits : UInt64
deriving DecidableEq, Inhabited, Repr

namespace Double

def zero : Double := ⟨0⟩

def negativeZero : Double := ⟨0x8000000000000000⟩

/-- The pattern of positive infinity, one above the largest finite magnitude. -/
def infinityBits : Nat := 0x7FF * 0x10000000000000

def signBit (number : Double) : Bool := 0x8000000000000000 ≤ number.bits

def negate (number : Double) : Double := ⟨number.bits ^^^ 0x8000000000000000⟩

/-- The bits below the sign, which grow with the magnitude. -/
def magnitudeBits (number : Double) : Nat := number.bits.toNat % 0x8000000000000000

def isFinite (number : Double) : Bool := number.magnitudeBits < infinityBits

/-- The mantissa `m` and exponent `e` of a finite magnitude `m * 2 ^ e`. -/
def parts (number : Double) : Nat × Int :=
  let exponent : Nat := number.magnitudeBits / 0x10000000000000
  let fraction : Nat := number.magnitudeBits % 0x10000000000000
  if exponent = 0 then (fraction, -1074) else (fraction + 0x10000000000000, (exponent : Int) - 1075)

/-- The quotient rounded to the nearest integer, a half to the even one. -/
def roundedQuotient (numerator denominator : Nat) : Nat :=
  let quotient := numerator / denominator
  let twice := 2 * (numerator % denominator)
  if twice < denominator then quotient
  else if denominator < twice then quotient + 1
  else quotient + quotient % 2

/-- `numerator / denominator` measured in units of `2 ^ exponent`, as a fraction of integers. -/
def inUnits (numerator denominator : Nat) (exponent : Int) : Nat × Nat :=
  (numerator * Nat.pow 2 (-exponent).toNat, denominator * Nat.pow 2 exponent.toNat)

/-- The exponent at which a positive fraction has 53 significant bits, or the least exponent. -/
def unitExponent (numerator denominator : Nat) : Int :=
  let estimate := max ((numerator.log2 : Int) - denominator.log2 - 53) (-1074)
  let (scaledNumerator, scaledDenominator) := inUnits numerator denominator estimate
  if scaledNumerator / scaledDenominator < 0x20000000000000 then estimate else estimate + 1

/-- The double nearest to a nonnegative fraction; past the largest one, infinity. -/
def ofRatio (numerator denominator : Nat) : Double :=
  if numerator = 0 then zero
  else
    let exponent := unitExponent numerator denominator
    let (scaledNumerator, scaledDenominator) := inUnits numerator denominator exponent
    let significand := roundedQuotient scaledNumerator scaledDenominator
    let pattern := (exponent + 1074).toNat * 0x10000000000000 + significand
    ⟨UInt64.ofNat (min pattern infinityBits)⟩

def ofNat (value : Nat) : Double := ofRatio value 1

def ofInt (value : Int) : Double :=
  if value < 0 then (ofNat value.natAbs).negate else ofNat value.natAbs

/-- A finite magnitude as a fraction of integers. -/
def ratio (number : Double) : Nat × Nat :=
  let (mantissa, exponent) := number.parts
  (mantissa * Nat.pow 2 exponent.toNat, Nat.pow 2 (-exponent).toNat)

/-- The rounded product of two nonnegative finite numbers. -/
def times (left right : Double) : Double :=
  let (leftNumerator, leftDenominator) := left.ratio
  let (rightNumerator, rightDenominator) := right.ratio
  ofRatio (leftNumerator * rightNumerator) (leftDenominator * rightDenominator)

/-- The rounded quotient of two nonnegative finite numbers, the second of them not zero. -/
def dividedBy (left right : Double) : Double :=
  let (leftNumerator, leftDenominator) := left.ratio
  let (rightNumerator, rightDenominator) := right.ratio
  ofRatio (leftNumerator * rightDenominator) (leftDenominator * rightNumerator)

/-- Scales a significand by a power of ten, both rounded first; `none` past the largest double.
Powers beyond `10 ^ 308` are applied in steps. -/
def scaled (significand : Nat) (exponent : Int) : Option Double :=
  let start := ofNat significand
  if exponent ≥ 0 then
    if exponent ≤ 308 then
      let product := start.times (ofNat (Nat.pow 10 exponent.toNat))
      if product.isFinite then some product else none
    else if start = zero then some zero
    else none
  else
    let steps := ((-exponent).toNat - 1) / 308
    let reduced := (List.replicate (min steps 3) (ofNat (Nat.pow 10 308))).foldl dividedBy start
    if reduced = zero then some zero
    else some (reduced.dividedBy (ofNat (Nat.pow 10 ((-exponent).toNat - 308 * min steps 3))))

end Double

end NicFlow
