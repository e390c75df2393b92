import NicFlow.Json.Basic
import NicFlow.Wire.Reading

/-! Free-form trees: the messages that carry a JSON value of any form, every number as a double. A tree
can be unset, and its null carries a code; trees copied from JSON are never unset and have code 0. -/

namespace NicFlow.Wire

inductive Tree where
  | unset
  | null (code : Int32)
  | number (value : Double)
  | string (value : String)
  | bool (value : Bool)
  /-- Fields in increasing order of their keys. -/
  | struct (fields : List (String × Tree))
  | list (elements : List Tree)
deriving Inhabited

/-- The top level of a free-form message. -/
abbrev Struct := List (String × Tree)

namespace Tree

mutual

/-- A copy of a JSON value. -/
def ofJson : Json → Tree
  | .null => .null 0
  | .bool value => .bool value
  | .number value => .number (value.toDouble)
  | .string value => .string value
  | .array elements => .list (ofElements elements)
  | .object fields => .struct (ofFields fields)

def ofElements : List Json → List Tree
  | [] => []
  | element :: rest => ofJson element :: ofElements rest

def ofFields : List (String × Json) → Struct
  | [] => []
  | (key, value) :: rest => (key, ofJson value) :: ofFields rest

end

/-- The eight bytes of a double, the lowest first. -/
def doubleBytes (value : Double) : Bytes :=
  (List.range 8).map fun index => UInt8.ofNat (value.bits.toNat / Nat.pow 256 index)

def doubleOfBytes (bytes : Bytes) : Double :=
  ⟨UInt64.ofNat (bytes.foldr (fun byte value => byte.toNat + 256 * value) 0)⟩

mutual

/-- The message of a value: exactly the member that it is, whatever its content. -/
def encode : Tree → Bytes
  | .unset => []
  | .null code => key 1 .varint ++ signedVarint code
  | .number value => key 2 .sixtyFourBit ++ doubleBytes value
  | .string value => key 3 .lengthDelimited ++ delimited (utf8 value)
  | .bool value => key 4 .varint ++ varint (if value then 1 else 0)
  | .struct fields => key 5 .lengthDelimited ++ delimited (encodeStruct fields)
  | .list elements => key 6 .lengthDelimited ++ delimited (encodeElements elements)

/-- The entries of a free-form message; an empty key and an unset value are left out. -/
def encodeStruct : List (String × Tree) → Bytes
  | [] => []
  | (name, value) :: rest =>
    let keyPart := if name.isEmpty then [] else key 1 .lengthDelimited ++ delimited (utf8 name)
    let valuePart :=
      match value with
      | .unset => []
      | value => key 2 .lengthDelimited ++ delimited value.encode
    key 1 .lengthDelimited ++ delimited (keyPart ++ valuePart) ++ encodeStruct rest

def encodeElements : List Tree → Bytes
  | [] => []
  | element :: rest => key 1 .lengthDelimited ++ delimited element.encode ++ encodeElements rest

end

/-- Places an error in a field. -/
def within {α : Type} (message field : String) (result : Decoding α) :
    Decoding α :=
  result.mapError (DecodeError.within message field)

/-- Reads one field of a free-form message; `mergeValue` reads the fields of the values one level
further down. Every field of number 1 is an entry, and a later entry replaces an earlier one of its key. -/
def mergeEntry (depth : Nat) (mergeValue : Tree → Bytes → Decoding (Tree × Bytes)) (fields : Struct)
    (bytes : Bytes) : Decoding (Struct × Bytes) := do
  let ((field, type), rest) ← readKey bytes
  if field = 1 then within "Struct" "fields" do
    if depth = 0 then fail .recursionLimit
    else
      let ((name, value), rest) ← repeatDelimited entryField ("", Tree.unset) rest
      return (insertSorted name value fields, rest)
  else
    let rest ← skipField depth field type rest
    return (fields, rest)
where
  entryField (entry : String × Tree) (bytes : Bytes) : Decoding ((String × Tree) × Bytes) := do
    let ((field, type), rest) ← readKey bytes
    if field = 1 then
      expectType type .lengthDelimited
      let (name, rest) ← readText rest
      return ((name, entry.2), rest)
    else if field = 2 then
      expectType type .lengthDelimited
      if depth - 1 = 0 then fail .recursionLimit
      else
        let (value, rest) ← repeatDelimited mergeValue entry.2 rest
        return ((entry.1, value), rest)
    else
      let rest ← skipField (depth - 1) field type rest
      return (entry, rest)

/-- Reads one field of a list. -/
def mergeElement (depth : Nat) (mergeValue : Tree → Bytes → Decoding (Tree × Bytes))
    (elements : List Tree) (bytes : Bytes) : Decoding (List Tree × Bytes) := do
  let ((field, type), rest) ← readKey bytes
  if field = 1 then within "ListValue" "values" do
    expectType type .lengthDelimited
    if depth = 0 then fail .recursionLimit
    else
      let (element, rest) ← repeatDelimited mergeValue .unset rest
      return (elements ++ [element], rest)
  else
    let rest ← skipField depth field type rest
    return (elements, rest)

/-- Stands for the fields of a value that lies too deep to be read. -/
def tooDeep (_ : Tree) (_ : Bytes) : Decoding (Tree × Bytes) := fail .recursionLimit

/-- Reads one field of a value. A member of another kind replaces what the value was; a struct or a
list is merged into one of its kind. -/
def mergeValue : (depth : Nat) → Tree → Bytes → Decoding (Tree × Bytes)
  | depth, value, bytes => do
    let ((field, type), rest) ← readKey bytes
    match field with
    | 1 => within "Value" "kind" do
      expectType type .varint
      let (code, rest) ← readVarint rest
      return (.null (Int32.ofInt code), rest)
    | 2 => within "Value" "kind" do
      expectType type .sixtyFourBit
      let (content, rest) ← takeBytes 8 rest
      return (.number (doubleOfBytes content), rest)
    | 3 => within "Value" "kind" do
      expectType type .lengthDelimited
      let (text, rest) ← readText rest
      return (.string text, rest)
    | 4 => within "Value" "kind" do
      expectType type .varint
      let (flag, rest) ← readVarint rest
      return (.bool (flag ≠ 0), rest)
    | 5 => within "Value" "kind" do
      expectType type .lengthDelimited
      let fields := match value with
        | .struct fields => fields
        | _ => []
      let step ← match depth with
        | 0 => fail .recursionLimit
        | 1 => .ok (mergeEntry 0 tooDeep)
        | 2 => .ok (mergeEntry 1 tooDeep)
        | depth + 3 => .ok (mergeEntry (depth + 2) (mergeValue depth))
      let (fields, rest) ← repeatDelimited step fields rest
      return (.struct fields, rest)
    | 6 => within "Value" "kind" do
      expectType type .lengthDelimited
      let elements := match value with
        | .list elements => elements
        | _ => []
      let step ← match depth with
        | 0 => fail .recursionLimit
        | 1 => .ok (mergeElement 0 tooDeep)
        | depth + 2 => .ok (mergeElement (depth + 1) (mergeValue depth))
      let (elements, rest) ← repeatDelimited step elements rest
      return (.list elements, rest)
    | _ =>
      let rest ← skipField depth field type rest
      return (value, rest)

/-- Decodes a free-form message. -/
def decodeStruct (bytes : Bytes) : Decoding Struct :=
  repeatAll (mergeEntry depthLimit (mergeValue (depthLimit - 2))) [] bytes

end Tree

end NicFlow.Wire
