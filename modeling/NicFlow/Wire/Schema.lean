import NicFlow.Document.Record

/-! Messages as typed records. The fields of a message have a name and a kind, and the field at
position `i` has the number `i + 1`. A kind determines the type of its values, so that everything
below is written once for all messages. -/

namespace NicFlow.Wire

abbrev Bytes := List UInt8

mutual

/-- What a field holds. -/
inductive Kind where
  | uint32
  | uint64
  | int32
  | bytes
  | string
  /-- A list of 32 bit words. -/
  | words
  /-- At most one message. -/
  | message (name : String) (fields : Fields)
  /-- A list of messages. -/
  | messages (name : String) (fields : Fields)

inductive Fields where
  | nil
  | cons (name : String) (kind : Kind) (rest : Fields)

end

mutual

def Kind.Value : Kind → Type
  | .uint32 => UInt32
  | .uint64 => UInt64
  | .int32 => Int32
  | .bytes => Bytes
  | .string => String
  | .words => List UInt32
  | .message _ fields => Option fields.Value
  | .messages _ fields => List fields.Value

def Fields.Value : Fields → Type
  | .nil => Unit
  | .cons _ kind rest => kind.Value × rest.Value

end

namespace Fields

def ofList : List (String × Kind) → Fields
  | [] => .nil
  | (name, kind) :: rest => .cons name kind (ofList rest)

/-- Fields that all hold a 32 bit word. -/
def ofWords : List String → Fields
  | [] => .nil
  | name :: rest => .cons name .uint32 (ofWords rest)

def names : Fields → List String
  | .nil => []
  | .cons name _ rest => name :: rest.names

end Fields

/-- The value of a field that is not given. -/
def Kind.default : (kind : Kind) → kind.Value
  | .uint32 => (0 : UInt32)
  | .uint64 => (0 : UInt64)
  | .int32 => (0 : Int32)
  | .bytes => ([] : Bytes)
  | .string => ""
  | .words => ([] : List UInt32)
  | .message _ _ => none
  | .messages _ _ => []

def Fields.default : (fields : Fields) → fields.Value
  | .nil => ()
  | .cons _ kind rest => (kind.default, rest.default)

/-- The content of a field, whatever its message. -/
inductive Content where
  | number (value : Nat)
  | bytes (value : Bytes)
  | text (value : String)

mutual

def Kind.content? : (kind : Kind) → kind.Value → List String → Option Content
  | .uint32, value, [] => some (.number (show UInt32 from value).toNat)
  | .uint64, value, [] => some (.number (show UInt64 from value).toNat)
  | .bytes, value, [] => some (.bytes value)
  | .string, value, [] => some (.text value)
  | .message _ fields, some value, path => fields.content? value path
  | _, _, _ => none

/-- The content of the field at a path of names; `none` where a message on the way is absent. -/
def Fields.content? : (fields : Fields) → fields.Value → List String → Option Content
  | .cons name kind rest, (value, values), key :: path =>
    if name = key then kind.content? value path else rest.content? values (key :: path)
  | _, _, _ => none

end

/-- The number at a path, zero where it is absent. -/
def Fields.number (fields : Fields) (value : fields.Value) (path : List String) : Nat :=
  match fields.content? value path with
  | some (.number value) => value
  | _ => 0

def Fields.bytes? (fields : Fields) (value : fields.Value) (path : List String) : Option Bytes :=
  match fields.content? value path with
  | some (.bytes value) => some value
  | _ => none

def Fields.text (fields : Fields) (value : fields.Value) (path : List String) : String :=
  match fields.content? value path with
  | some (.text value) => value
  | _ => ""

end NicFlow.Wire
