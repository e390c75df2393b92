import NicFlow.Wire.Encoding

/-! Reading the binary form from the front of a list of bytes: numbers, keys, delimited content, and
fields that are passed over. -/

namespace NicFlow.Wire

/-- What is wrong with a binary form. -/
inductive Cause where
  | invalidVarint
  | bufferUnderflow
  | lengthExceeded
  | invalidKey (value : Nat)
  | zeroNumber
  | unknownType (code : Nat)
  | wrongType (found expected : WireType)
  | notUtf8
  | unexpectedEndGroup
  | recursionLimit
deriving DecidableEq, Repr

def WireType.name : WireType → String
  | .varint => "Varint"
  | .sixtyFourBit => "SixtyFourBit"
  | .lengthDelimited => "LengthDelimited"
  | .startGroup => "StartGroup"
  | .endGroup => "EndGroup"
  | .thirtyTwoBit => "ThirtyTwoBit"

def Cause.message : Cause → String
  | .invalidVarint => "invalid varint"
  | .bufferUnderflow => "buffer underflow"
  | .lengthExceeded => "delimited length exceeded"
  | .invalidKey value => s!"invalid key value: {value}"
  | .zeroNumber => "invalid tag value: 0"
  | .unknownType code => s!"invalid wire type value: {code}"
  | .wrongType found expected =>
    s!"invalid wire type: {found.name} (expected {expected.name})"
  | .notUtf8 => "invalid string value: data is not UTF-8 encoded"
  | .unexpectedEndGroup => "unexpected end group tag"
  | .recursionLimit => "recursion limit reached"

/-- A cause with the message and field it lies in, the innermost first. -/
structure DecodeError where
  path : List (String × String)
  cause : Cause
deriving DecidableEq, Repr

namespace DecodeError

/-- How a path names a field. The name of a reserved word is marked. -/
def fieldName (name : String) : String := if name = "type" then "r#type" else name

def within (message field : String) (error : DecodeError) : DecodeError :=
  { error with path := error.path ++ [(message, fieldName field)] }

def message (error : DecodeError) : String :=
  "failed to decode Protobuf message: " ++
    String.join (error.path.map fun (message, field) => message ++ "." ++ field ++ ": ") ++
    error.cause.message

end DecodeError

/-- A step that reads from the front of the bytes returns a value and the bytes after it. -/
abbrev Decoding (α : Type) := Except DecodeError α

def fail {α : Type} (cause : Cause) : Decoding α := .error ⟨[], cause⟩

/-- Reads a number of at most `left` bytes. The last of ten bytes holds one bit. -/
def varintOf? : (left : Nat) → Bytes → Option (Nat × Bytes)
  | 0, _ | _, [] => none
  | left + 1, byte :: rest =>
    if byte < 128 then
      if left = 0 ∧ 2 ≤ byte then none else some (byte.toNat, rest)
    else
      match varintOf? left rest with
      | some (value, rest) => some (byte.toNat - 128 + 128 * value, rest)
      | none => none

def readVarint (bytes : Bytes) : Decoding (Nat × Bytes) :=
  match varintOf? 10 bytes with
  | some result => .ok result
  | none => fail .invalidVarint

/-- The number of a field and how its content is delimited. -/
def readKey (bytes : Bytes) : Decoding ((Nat × WireType) × Bytes) := do
  let (value, rest) ← readVarint bytes
  if value ≥ 0x100000000 then fail (.invalidKey value)
  else
    match WireType.ofCode? (value % 8) with
    | none => fail (.unknownType (value % 8))
    | some type => if value / 8 = 0 then fail .zeroNumber else .ok ((value / 8, type), rest)

def expectType (found expected : WireType) : Decoding Unit :=
  if found = expected then .ok () else fail (.wrongType found expected)

/-- The first bytes, if there are that many. -/
def takeBytes (count : Nat) (bytes : Bytes) : Decoding (Bytes × Bytes) :=
  if bytes.length < count then fail .bufferUnderflow
  else .ok (bytes.take count, bytes.drop count)

def readDelimited (bytes : Bytes) : Decoding (Bytes × Bytes) := do
  let (length, rest) ← readVarint bytes
  takeBytes length rest

/-- Repeats a step until only `stop` bytes are left. Each step takes at least one byte. -/
def repeatUntil {α : Type} (step : α → Bytes → Decoding (α × Bytes)) (stop : Nat) :
    (fuel : Nat) → α → Bytes → Decoding (α × Bytes)
  | 0, value, bytes => .ok (value, bytes)
  | fuel + 1, value, bytes =>
    if stop < bytes.length then do
      let (value, rest) ← step value bytes
      repeatUntil step stop fuel value rest
    else if bytes.length = stop then .ok (value, bytes)
    else fail .lengthExceeded

/-- Repeats a step over delimited content. -/
def repeatDelimited {α : Type} (step : α → Bytes → Decoding (α × Bytes)) (value : α) (bytes : Bytes) :
    Decoding (α × Bytes) := do
  let (length, rest) ← readVarint bytes
  if rest.length < length then fail .bufferUnderflow
  else repeatUntil step (rest.length - length) (rest.length + 1) value rest

/-- Repeats a step over all bytes. -/
def repeatAll {α : Type} (step : α → Bytes → Decoding (α × Bytes)) (value : α) (bytes : Bytes) :
    Decoding α :=
  (repeatUntil step 0 (bytes.length + 1) value bytes).map fun (value, _) => value

/-- Passes over the fields of a group up to its end. -/
def skipGroup (skip : Nat → WireType → Bytes → Decoding Bytes) (number : Nat) :
    (fuel : Nat) → Bytes → Decoding Bytes
  | 0, _ => fail .invalidVarint
  | fuel + 1, bytes => do
    let ((inner, type), rest) ← readKey bytes
    if type = .endGroup then
      if inner = number then .ok rest else fail .unexpectedEndGroup
    else
      let rest ← skip inner type rest
      skipGroup skip number fuel rest

/-- Passes over the content of a field; groups nest at most `depth` deep. -/
def skipField : (depth : Nat) → (number : Nat) → WireType → Bytes → Decoding Bytes
  | 0, _, _, _ => fail .recursionLimit
  | depth + 1, number, type, bytes =>
    match type with
    | .varint => (readVarint bytes).map Prod.snd
    | .thirtyTwoBit => (takeBytes 4 bytes).map Prod.snd
    | .sixtyFourBit => (takeBytes 8 bytes).map Prod.snd
    | .lengthDelimited => (readDelimited bytes).map Prod.snd
    | .startGroup => skipGroup (skipField depth) number (bytes.length + 1) bytes
    | .endGroup => fail .unexpectedEndGroup

def readText (bytes : Bytes) : Decoding (String × Bytes) := do
  let (content, rest) ← readDelimited bytes
  match String.fromUTF8? ⟨content.toArray⟩ with
  | some text => .ok (text, rest)
  | none => fail .notUtf8

/-- How deep messages and groups may nest. -/
def depthLimit : Nat := 100

end NicFlow.Wire
