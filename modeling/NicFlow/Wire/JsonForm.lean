import NicFlow.Wire.Schema

/-! The JSON form of messages: an object of all fields, bytes as a list of integers, an absent message
as null. It is read with the rules of records, every field having its default. -/

namespace NicFlow.Wire

mutual

def Kind.toJson : (kind : Kind) → kind.Value → Json
  | .uint32, value => .ofNat (show UInt32 from value).toNat
  | .uint64, value => .ofNat (show UInt64 from value).toNat
  | .int32, value => .ofInt (show Int32 from value).toInt
  | .bytes, value => .array ((show Bytes from value).map fun byte => .ofNat byte.toNat)
  | .string, value => .string value
  | .words, value => .array ((show List UInt32 from value).map fun word => .ofNat word.toNat)
  | .message _ _, none => .null
  | .message _ fields, some value => .ofFields (fields.toEntries value)
  | .messages _ fields, values =>
    .array ((show List fields.Value from values).map fun value => .ofFields (fields.toEntries value))

def Fields.toEntries : (fields : Fields) → fields.Value → List (String × Json)
  | .nil, _ => []
  | .cons name kind rest, (value, values) => (name, kind.toJson value) :: rest.toEntries values

end

def Fields.toJson (fields : Fields) (value : fields.Value) : Json :=
  .ofFields (fields.toEntries value)

/-- The names of fields, all of which may be left out. -/
def Fields.fieldNames (fields : Fields) : List FieldName :=
  fields.names.map fun name => { name }

section Reading

variable {α : Type} [Document α]

mutual

/-- Reads a field; `closed` messages refuse names that are not theirs. -/
def Kind.read (closed : Bool) : (kind : Kind) → α → Read kind.Value
  | .uint32, document => readUInt32 document
  | .uint64, document => readUInt64 document
  | .int32, document => readInt32 document
  | .bytes, document => readList readUInt8 document
  | .string, document => readString document
  | .words, document => readList readUInt32 document
  | .message name fields, document =>
    readOption (fun document =>
      RecordReader.read ⟨name, fields.fieldNames, closed, fields.default,
        fun position document value => fields.assign closed position document value⟩ document)
      document
  | .messages name fields, document =>
    readList (fun document =>
      RecordReader.read ⟨name, fields.fieldNames, closed, fields.default,
        fun position document value => fields.assign closed position document value⟩ document)
      document

/-- Reads the field at a position into a message. -/
def Fields.assign (closed : Bool) :
    (fields : Fields) → Nat → α → fields.Value → Read fields.Value
  | .nil, _, _, value => .ok value
  | .cons _ kind _, 0, document, (_, values) => do
    let value ← kind.read closed document
    return (value, values)
  | .cons _ _ rest, position + 1, document, (value, values) => do
    let values ← rest.assign closed position document values
    return (value, values)

end

def Fields.reader (name : String) (fields : Fields) (closed : Bool) :
    RecordReader α fields.Value :=
  ⟨name, fields.fieldNames, closed, fields.default, fields.assign closed⟩

/-- Reads a message from its JSON form. -/
def Fields.read (name : String) (fields : Fields) (closed : Bool) (document : α) :
    Read fields.Value :=
  (fields.reader name closed).read document

end Reading

end NicFlow.Wire
