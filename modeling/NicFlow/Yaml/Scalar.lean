import NicFlow.Document.Basic
import NicFlow.Number.Decimal

/-! What plain scalars stand for: null, a truth value, an integer in one of four bases, a floating
point number, or else their own text. -/

namespace NicFlow.Yaml

def isNull (text : List Char) : Bool :=
  text ∈ ["null", "Null", "NULL", "~"].map String.toList

def bool? (text : List Char) : Option Bool :=
  if text ∈ ["true", "True", "TRUE"].map String.toList then some true
  else if text ∈ ["false", "False", "FALSE"].map String.toList then some false
  else none

/-- The number of digits of a base up to sixteen. -/
def ofDigits? (base : Nat) (digits : List Char) : Option Nat :=
  if digits.isEmpty then none
  else digits.foldlM (fun value digit =>
    match Text.hexValue? digit with
    | some number => if number < base then some (value * base + number) else none
    | none => none) 0

/-- Digits after a needless zero are no number. -/
def hasNeedlessZero (digits : List Char) : Bool :=
  match digits with
  | '0' :: rest => rest ≠ [] ∧ rest.all Char.isDigit
  | _ => false

/-- The magnitude of an integer without its sign. -/
def magnitude? (digits : List Char) : Option Nat :=
  match digits with
  | '0' :: 'x' :: rest => ofDigits? 16 rest
  | '0' :: 'o' :: rest => ofDigits? 8 rest
  | '0' :: 'b' :: rest => ofDigits? 2 rest
  | _ => if hasNeedlessZero digits then none else ofDigits? 10 digits

def integer? (text : List Char) : Option Int :=
  match text with
  | '-' :: digits => (magnitude? digits).map fun value => -(value : Int)
  | '+' :: digits => (magnitude? digits).map Int.ofNat
  | digits => (magnitude? digits).map Int.ofNat

/-- Whether an integer is one of 64 bits, with a sign or without. -/
def isSmall (value : Int) : Bool := -0x8000000000000000 ≤ value ∧ value < 0x10000000000000000

/-- Whether an integer is one of 128 bits, with a sign or without. -/
def isWide (value : Int) : Bool :=
  -0x80000000000000000000000000000000 ≤ value ∧ value < 0x100000000000000000000000000000000

/-- A scalar without its sign. -/
def unsigned (text : List Char) : List Char :=
  match text with
  | '+' :: rest => rest
  | '-' :: rest => rest
  | _ => text

/-- Infinities and the number that is none have words of their own, and no JSON value. -/
def specialNumber? (text : List Char) : Option String :=
  if unsigned text ∈ [".inf", ".Inf", ".INF"].map String.toList then
    some (if text.head? = some '-' then "-inf" else "inf")
  else if text ∈ [".nan", ".NaN", ".NAN"].map String.toList then some "NaN"
  else none

/-- A floating point number; infinite numbers are none. -/
def double? (text : List Char) : Option Double :=
  if hasNeedlessZero (unsigned text) then none
  else (Double.ofLiteral? text).filter Double.isFinite

/-- The JSON value of a scalar that is neither null, a truth value nor an integer. -/
def jsonOfWord (text : List Char) : Json :=
  match double? text with
  | some value => .number (.double value)
  | none => .string (String.ofList text)

/-- The JSON value of a plain scalar. An integer of more than 64 bits has none, and one of more than
128 bits is read as any other word. -/
def jsonOfPlain (text : List Char) : Option Json :=
  if text.isEmpty ∨ isNull text ∨ (specialNumber? text).isSome then some .null
  else
    match bool? text, integer? text with
    | some value, _ => some (.bool value)
    | none, none => some (jsonOfWord text)
    | none, some value =>
      if isSmall value then some (.ofInt value)
      else if isWide value then none
      else some (jsonOfWord text)

/-- A whole number has a point in a message. -/
def shownDouble (value : Double) : String :=
  let text := value.positional
  if '.' ∈ text.toList then text else text ++ ".0"

/-- What a plain scalar is where something else is wanted. -/
def foundPlain (text : List Char) : Found :=
  let word : Found :=
    match specialNumber? text, double? text with
    | some name, _ => .other ("floating point `" ++ name ++ "`")
    | none, some value => .other ("floating point `" ++ shownDouble value ++ "`")
    | none, none => .string (String.ofList text)
  if text.isEmpty ∨ isNull text then .other "unit value"
  else
    match bool? text, integer? text with
    | some value, _ => .bool value
    | none, none => word
    | none, some value =>
      if isSmall value then .number (.integer value)
      else if isWide value then
        .other (s!"integer `{value}` as " ++ if value < 0 then "i128" else "u128")
      else word

/-- The integer of a plain scalar that has no minus sign. -/
def natural? (text : List Char) : Option Int :=
  if text.head? = some '-' then none else (integer? text).filter isSmall

end NicFlow.Yaml
