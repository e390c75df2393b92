import NicFlow.Number.Double
import NicFlow.Text.Split

/-! Decimal literals: an optional sign, digits with a point anywhere among them or none, and an
optional power of ten. The double of a literal is its exact value rounded once. -/

namespace NicFlow.Double

/-- The value of decimal digits scaled by a power of ten. -/
def ofDecimal (digits : Nat) (exponent : Int) : Double :=
  ofRatio (digits * Nat.pow 10 exponent.toNat) (Nat.pow 10 (-exponent).toNat)

/-- The exponent part of a literal, zero if there is none. -/
def exponentPart? : List Char → Option Int
  | [] => some 0
  | mark :: digits =>
    if mark = 'e' ∨ mark = 'E' then
      match digits with
      | '-' :: digits => (Text.ofDecimal? digits).map fun value => -(value : Int)
      | '+' :: digits => (Text.ofDecimal? digits).map Int.ofNat
      | digits => (Text.ofDecimal? digits).map Int.ofNat
    else none

/-- The digits before and after a point, with what follows them. -/
def splitDigits (text : List Char) : List Char × List Char × List Char :=
  match text.span Char.isDigit with
  | (whole, '.' :: rest) =>
    let (fraction, rest) := rest.span Char.isDigit
    (whole, fraction, rest)
  | (whole, rest) => (whole, [], rest)

/-- The power of ten by which digits are scaled. Beyond these bounds every number is zero or
infinite. -/
def boundedExponent (digits : List Char) (exponent : Int) : Int :=
  let bound : Int := 400 + digits.length
  max (-bound) (min exponent bound)

/-- A literal without a sign, with at least one digit. Past the largest double it is infinite. -/
def ofUnsignedLiteral? (text : List Char) : Option Double :=
  let (whole, fraction, rest) := splitDigits text
  let digits := whole ++ fraction
  match Text.ofDecimal? digits, exponentPart? rest with
  | some value, some exponent =>
    some (ofDecimal value (boundedExponent digits exponent - fraction.length))
  | _, _ => none

/-- A literal with an optional sign. -/
def ofLiteral? : List Char → Option Double
  | '-' :: rest => (ofUnsignedLiteral? rest).map negate
  | '+' :: rest => ofUnsignedLiteral? rest
  | text => ofUnsignedLiteral? text

end NicFlow.Double
