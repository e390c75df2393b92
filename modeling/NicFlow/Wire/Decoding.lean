import NicFlow.Wire.Reading

/-! Decoding messages. Fields come in any order; a later scalar replaces an earlier one, a later message
is merged into an earlier one, lists grow, and unknown fields are passed over. -/

namespace NicFlow.Wire

/-- Merges one field of a message, found by its number. -/
def mergeField {α : Type} (depth : Nat)
    (mergeAt : Nat → WireType → α → Bytes → Option (Decoding (α × Bytes))) (value : α) (bytes : Bytes) :
    Decoding (α × Bytes) := do
  let ((number, type), rest) ← readKey bytes
  match mergeAt (number - 1) type value rest with
  | some merged => merged
  | none =>
    let rest ← skipField depth number type rest
    return (value, rest)

mutual

/-- Reads the content of a field onto the value that the field has so far. -/
def Kind.merge (depth : Nat) : (kind : Kind) → WireType → kind.Value → Bytes → Decoding (kind.Value × Bytes)
  | .uint32, type, _, bytes => do
    expectType type .varint
    let (value, rest) ← readVarint bytes
    return (UInt32.ofNat value, rest)
  | .uint64, type, _, bytes => do
    expectType type .varint
    let (value, rest) ← readVarint bytes
    return (UInt64.ofNat value, rest)
  | .int32, type, _, bytes => do
    expectType type .varint
    let (value, rest) ← readVarint bytes
    return (Int32.ofInt value, rest)
  | .bytes, type, _, bytes => do
    expectType type .lengthDelimited
    readDelimited bytes
  | .string, type, _, bytes => do
    expectType type .lengthDelimited
    readText bytes
  | .words, type, words, bytes =>
    let push (words : List UInt32) (bytes : Bytes) : Decoding (List UInt32 × Bytes) := do
      let (value, rest) ← readVarint bytes
      return (words ++ [UInt32.ofNat value], rest)
    if type = .lengthDelimited then repeatDelimited push words bytes
    else do
      expectType type .varint
      push words bytes
  | .message name fields, type, value, bytes => do
    expectType type .lengthDelimited
    if depth = 0 then fail .recursionLimit
    else
      let (value, rest) ← repeatDelimited
        (mergeField (depth - 1) fun position type value bytes =>
          fields.mergeAt name (depth - 1) position type value bytes)
        (value.getD fields.default) bytes
      return (some value, rest)
  | .messages name fields, type, values, bytes => do
    expectType type .lengthDelimited
    if depth = 0 then fail .recursionLimit
    else
      let (value, rest) ← repeatDelimited
        (mergeField (depth - 1) fun position type value bytes =>
          fields.mergeAt name (depth - 1) position type value bytes)
        fields.default bytes
      return ((show List fields.Value from values) ++ [value], rest)

/-- Merges the field at a position, if there is one. -/
def Fields.mergeAt (message : String) (depth : Nat) :
    (fields : Fields) → Nat → WireType → fields.Value → Bytes → Option (Decoding (fields.Value × Bytes))
  | .nil, _, _, _, _ => none
  | .cons name kind _, 0, type, (value, values), bytes =>
    some (match kind.merge depth type value bytes with
      | .ok (value, rest) => .ok ((value, values), rest)
      | .error error => .error (error.within message name))
  | .cons _ _ rest, position + 1, type, (value, values), bytes =>
    match rest.mergeAt message depth position type values bytes with
    | some (.ok (values, bytes)) => some (.ok ((value, values), bytes))
    | some (.error error) => some (.error error)
    | none => none

end

/-- Decodes a message of the given name. -/
def Fields.decode (fields : Fields) (name : String) (bytes : Bytes) :
    Decoding fields.Value :=
  repeatAll (mergeField depthLimit fun position type value bytes =>
    fields.mergeAt name depthLimit position type value bytes) fields.default bytes

end NicFlow.Wire
