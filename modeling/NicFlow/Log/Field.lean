import NicFlow.Log.Pattern
import NicFlow.Number.Decimal
import NicFlow.Number.Shortest

/-! What a directive asks of the fields of a span: a name, and perhaps a value. A value is a truth
value, a number if it can be read as one, or else a pattern. -/

namespace NicFlow.Log

inductive FieldValue where
  | truth (value : Bool)
  | natural (value : Nat)
  /-- An integer written with a minus sign. -/
  | signed (value : Int)
  | double (value : Double)
  | notANumber
  | pattern (text : String)
deriving DecidableEq, Repr

namespace FieldValue

/-- An integer of at most 64 bits. -/
def integer? : List Char → Option FieldValue
  | '-' :: digits => (Text.ofDecimal? digits).bind fun value =>
    if value ≤ 0x8000000000000000 then some (.signed (-value)) else none
  | '+' :: digits => natural? digits
  | digits => natural? digits
where
  natural? (digits : List Char) : Option FieldValue := (Text.ofDecimal? digits).bind fun value =>
    if value < 0x10000000000000000 then some (.natural value) else none

/-- The words for numbers that have no digits, in any case and with a sign or none. -/
def word? (text : List Char) : Option FieldValue :=
  let (negative, name) := match text with
    | '-' :: name => (true, name)
    | '+' :: name => (false, name)
    | _ => (false, text)
  let infinity : Double := ⟨UInt64.ofNat Double.infinityBits⟩
  let name := String.ofList (name.map Char.toLower)
  if name = "inf" ∨ name = "infinity" then
    some (.double (if negative then infinity.negate else infinity))
  else if name = "nan" then some .notANumber
  else none

def parse? (text : List Char) : Option FieldValue :=
  if text = "true".toList then some (.truth true)
  else if text = "false".toList then some (.truth false)
  else integer? text <|> (Double.ofLiteral? text).map .double <|> word? text <|>
    (if isPattern text then some (.pattern (String.ofList text)) else none)

def render : FieldValue → String
  | .truth value => toString value
  | .natural value => toString value
  | .signed value => toString value
  | .double value => value.positional
  | .notANumber => "NaN"
  | .pattern text => text

end FieldValue

structure FieldFilter where
  name : String
  value : Option FieldValue
deriving DecidableEq, Repr

namespace FieldFilter

/-- A name, or a name and a value with an equals sign in between; a second equals sign ends the
value. -/
def parse? (text : List Char) : Option FieldFilter :=
  match Text.splitAll '=' text with
  | name :: value :: _ => (FieldValue.parse? value).map (⟨String.ofList name, some ·⟩)
  | _ => some ⟨String.ofList text, none⟩

def render (field : FieldFilter) : String :=
  match field.value with
  | some value => field.name ++ "=" ++ value.render
  | none => field.name

/-- Whether work with these fields is what a filter asks for. -/
def holds (field : FieldFilter) (fields : List (String × Nat)) : Bool :=
  match fields.lookup field.name, field.value with
  | some _, none => true
  | some number, some value => value = .natural number
  | none, _ => false

/-- The filter by which it is found among others. The two zeros are one number. -/
def key (field : FieldFilter) : FieldFilter :=
  match field.value with
  | some (.double value) => if value = .negativeZero then ⟨field.name, some (.double .zero)⟩ else field
  | _ => field

end FieldFilter

end NicFlow.Log
