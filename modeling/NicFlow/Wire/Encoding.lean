import NicFlow.Wire.Schema

/-! The binary form of messages. Fields are written in the order of their numbers, and a field that
has its default value is left out; only an absent message is left out, an empty one is not. -/

namespace NicFlow.Wire

/-- How the content of a field is delimited. -/
inductive WireType where
  | varint
  | sixtyFourBit
  | lengthDelimited
  | startGroup
  | endGroup
  | thirtyTwoBit
deriving DecidableEq, Repr

def WireType.code : WireType → Nat
  | .varint => 0
  | .sixtyFourBit => 1
  | .lengthDelimited => 2
  | .startGroup => 3
  | .endGroup => 4
  | .thirtyTwoBit => 5

def WireType.ofCode? : Nat → Option WireType
  | 0 => some .varint
  | 1 => some .sixtyFourBit
  | 2 => some .lengthDelimited
  | 3 => some .startGroup
  | 4 => some .endGroup
  | 5 => some .thirtyTwoBit
  | _ => none

/-- A number in groups of seven bits, the lowest first; all bytes but the last have their high bit
set. -/
def varint (value : Nat) : Bytes :=
  if value < 128 then [UInt8.ofNat value]
  else UInt8.ofNat (value % 128 + 128) :: varint (value / 128)

/-- The number and the wire type of a field. -/
def key (number : Nat) (type : WireType) : Bytes := varint (number * 8 + type.code)

def delimited (content : Bytes) : Bytes := varint content.length ++ content

/-- A signed word is written as the 64 bit word of the same remainder. -/
def signedVarint (value : Int32) : Bytes := varint (value.toInt % 0x10000000000000000).toNat

def utf8 (text : String) : Bytes := text.toUTF8.data.toList

mutual

def Kind.encode : (kind : Kind) → (number : Nat) → kind.Value → Bytes
  | .uint32, number, value =>
    if (show UInt32 from value) = 0 then []
    else key number .varint ++ varint (show UInt32 from value).toNat
  | .uint64, number, value =>
    if (show UInt64 from value) = 0 then []
    else key number .varint ++ varint (show UInt64 from value).toNat
  | .int32, number, value =>
    if (show Int32 from value) = 0 then [] else key number .varint ++ signedVarint value
  | .bytes, number, value =>
    if (show Bytes from value).isEmpty then [] else key number .lengthDelimited ++ delimited value
  | .string, number, value =>
    if (show String from value).isEmpty then []
    else key number .lengthDelimited ++ delimited (utf8 value)
  | .words, number, value =>
    if (show List UInt32 from value).isEmpty then []
    else key number .lengthDelimited ++
      delimited ((show List UInt32 from value).flatMap fun word => varint word.toNat)
  | .message _ _, _, none => []
  | .message _ fields, number, some value =>
    key number .lengthDelimited ++ delimited (fields.encodeFrom 1 value)
  | .messages _ fields, number, values =>
    (show List fields.Value from values).flatMap fun value =>
      key number .lengthDelimited ++ delimited (fields.encodeFrom 1 value)

/-- Writes fields of which the first has the given number. -/
def Fields.encodeFrom : (fields : Fields) → (number : Nat) → fields.Value → Bytes
  | .nil, _, _ => []
  | .cons _ kind rest, number, (value, values) =>
    kind.encode number value ++ rest.encodeFrom (number + 1) values

end

def Fields.encode (fields : Fields) (value : fields.Value) : Bytes := fields.encodeFrom 1 value

end NicFlow.Wire
