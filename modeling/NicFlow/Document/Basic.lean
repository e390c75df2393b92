import NicFlow.Json.Text
import NicFlow.Json.Printer

/-! Documents seen by typed readers. A document shows one level at a time, to match what its reader
wants, and a reader turns it into a value or into the first error in the order of its visit. -/

namespace NicFlow

/-- What is found in a place where something else was wanted. -/
inductive Found where
  | null
  | bool (value : Bool)
  | number (value : Number)
  | string (value : String)
  | sequence
  | mapping
  /-- Something that has no kind of its own among these. -/
  | other (description : String)

def Found.text : Found → String
  | .null => "null"
  | .bool value => s!"boolean `{value}`"
  | .number (.integer value) => s!"integer `{value}`"
  | .number (.double value) => "floating point `" ++ value.render ++ "`"
  | .string value => "string " ++ Text.shownQuoted value
  | .sequence => "sequence"
  | .mapping => "map"
  | .other description => description

namespace Text

/-- A place in a text; lines and columns count from zero. -/
structure Place where
  line : Nat
  column : Nat
deriving DecidableEq, Inhabited, Repr

namespace Place

/-- The beginning of a text. -/
def start : Place := ⟨0, 0⟩

def right (place : Place) (count : Nat) : Place := ⟨place.line, place.column + count⟩

/-- How a message says where something is: it counts from one, and is silent about the beginning. -/
def suffix (place : Place) : String :=
  if place = start then "" else s!" at line {place.line + 1} column {place.column + 1}"

end Place

end Text

inductive ReadError where
  | wrongType (found : Found) (wanted : String)
  | outOfRange (value : Int) (wanted : String)
  | unknownField (name : String) (known : List String)
  | duplicateField (name : String)
  | missingField (name : String)
  /-- A list that ends before all fields of a record are read. -/
  | tooShort (length : Nat) (record : String) (fields : Nat)
  /-- A list that goes on after all fields of a record are read. -/
  | tooLong (length : Nat)
  | malformed (error : SyntaxError)
  /-- A value of the right type that its own rules refuse. -/
  | refused (reason : String)
  /-- A text that is no document; the reason says where. -/
  | unreadable (reason : String)
  /-- An error, where in its document it is, and where in the text. -/
  | located (path : String) (place : Text.Place) (error : ReadError)

namespace ReadError

def quoted (name : String) : String := "`" ++ name ++ "`"

/-- How the known fields of a record are listed. -/
def alternatives : List String → String
  | [] => "there are no fields"
  | [one] => "expected " ++ quoted one
  | [one, two] => "expected " ++ quoted one ++ " or " ++ quoted two
  | names => "expected one of " ++ ", ".intercalate (names.map quoted)

def message : ReadError → String
  | .wrongType found wanted => s!"invalid type: {found.text}, expected {wanted}"
  | .outOfRange value wanted => s!"invalid value: integer `{value}`, expected {wanted}"
  | .unknownField name known => s!"unknown field {quoted name}, {alternatives known}"
  | .duplicateField name => s!"duplicate field {quoted name}"
  | .missingField name => s!"missing field {quoted name}"
  | .tooShort length record fields =>
    s!"invalid length {length}, expected struct {record} with {fields} " ++
      (if fields = 1 then "element" else "elements")
  | .tooLong length => s!"invalid length {length}, expected fewer elements in array"
  | .malformed error => error.message
  | .refused reason => reason
  | .unreadable reason => reason
  | .located path place error =>
    (if path = "." then "" else path ++ ": ") ++ error.message ++ place.suffix

end ReadError

abbrev Read (α : Type) := Except ReadError α

/-- How the elements of a container end. -/
inductive Ending where
  /-- The container is a whole value. -/
  | whole
  /-- The container stands in a text, which may break off. -/
  | inText (fault : Option Fault)
  /-- The container has something next that cannot be read. -/
  | stopped (error : ReadError)

/-- One level of a document. -/
inductive View (α : Type) where
  | null
  | bool (value : Bool)
  | number (value : Number)
  | string (value : String)
  | sequence (elements : List α) (ending : Ending)
  | mapping (fields : List (String × α)) (ending : Ending)
  /-- What no reader takes. -/
  | other (found : Found)
  | broken (error : ReadError)

/-- What a reader wants from a document. -/
inductive Wanted where
  | optional
  | bool
  /-- An integer that is not negative. -/
  | natural
  | integer
  | string
  | sequence
  | mapping
  | record

/-- A kind of documents that can be read. -/
class Document (α : Type) where
  /-- Whether a record may be written as the list of its fields. -/
  listsAsRecords : Bool
  view : Wanted → α → View α
  /-- Passes over a document that is not wanted. -/
  skip : α → Read Unit
  /-- The document as it is. -/
  raw : α → Read Json
  /-- Says of an error that reading a document met where it is, unless it says so already. -/
  locate : α → ReadError → ReadError
  /-- The same for the name of the field that the document is the value of. -/
  locateName : α → ReadError → ReadError

def Json.view : Json → View Json
  | .null => .null
  | .bool value => .bool value
  | .number value => .number value
  | .string value => .string value
  | .array elements => .sequence elements .whole
  | .object fields => .mapping fields .whole

instance : Document Json where
  listsAsRecords := true
  view _ := Json.view
  skip _ := .ok ()
  raw := .ok
  locate _ error := error
  locateName _ error := error

namespace TextDocument

/-- The fields up to the first key that is not a text, with what ends them. -/
def readableFields (fault : Option Fault) :
    List (Except SyntaxError String × TextDocument) →
      List (String × TextDocument) × Option Fault
  | [] => ([], fault)
  | (.error error, _) :: _ => ([], some (.always error))
  | (.ok key, value) :: rest =>
    let (fields, fault) := readableFields fault rest
    ((key, value) :: fields, fault)

def view : TextDocument → View TextDocument
  | .null => .null
  | .bool value => .bool value
  | .number (.ok value) => .number value
  | .number (.error error) => .broken (.malformed error)
  | .string (.ok value) => .string value
  | .string (.error error) => .broken (.malformed error)
  | .array elements fault => .sequence elements (.inText fault)
  | .object fields fault =>
    let (fields, fault) := readableFields fault fields
    .mapping fields (.inText fault)
  | .broken fault => .broken (.malformed fault.wanted)

end TextDocument

instance : Document TextDocument where
  listsAsRecords := true
  view _ := TextDocument.view
  skip document :=
    match document.passedFault? with
    | some error => .error (.malformed error)
    | none => .ok ()
  raw document := document.toJson.mapError .malformed
  locate _ error := error
  locateName _ error := error

section Readers

variable {α : Type} [Document α]

open Document

/-- The error of a reader that wants something else than it sees. -/
def View.mismatch (wanted : String) : View α → ReadError
  | .null => .wrongType .null wanted
  | .bool value => .wrongType (.bool value) wanted
  | .number value => .wrongType (.number value) wanted
  | .string value => .wrongType (.string value) wanted
  | .sequence _ _ => .wrongType .sequence wanted
  | .mapping _ _ => .wrongType .mapping wanted
  | .other found => .wrongType found wanted
  | .broken error => error

/-- What a reader makes of a view, with the place of its error. -/
def readView {β : Type} (wanted : Wanted) (read : View α → Read β) (document : α) : Read β :=
  (read (view wanted document)).mapError (locate document)

def readBool : α → Read Bool :=
  readView .bool fun
    | .bool value => .ok value
    | other => .error (other.mismatch "a boolean")

def readString : α → Read String :=
  readView .string fun
    | .string value => .ok value
    | other => .error (other.mismatch "a string")

/-- An integer from `low` to `high`. -/
def readInteger (kind : Wanted) (low high : Int) (wanted : String) : α → Read Int :=
  readView kind fun
    | .number (.integer value) =>
      if low ≤ value ∧ value ≤ high then .ok value else .error (.outOfRange value wanted)
    | other => .error (other.mismatch wanted)

def readUInt8 (document : α) : Read UInt8 :=
  (readInteger .natural 0 255 "u8" document).map fun value => UInt8.ofNat value.toNat

def readUInt32 (document : α) : Read UInt32 :=
  (readInteger .natural 0 0xffffffff "u32" document).map fun value => UInt32.ofNat value.toNat

def readUInt64 (document : α) : Read UInt64 :=
  (readInteger .natural 0 0xffffffffffffffff "u64" document).map fun value =>
    UInt64.ofNat value.toNat

def readInt32 (document : α) : Read Int32 :=
  (readInteger .integer (-0x80000000) 0x7fffffff "i32" document).map Int32.ofInt

/-- Null is an absent value. -/
def readOption {β : Type} (read : α → Read β) (document : α) : Read (Option β) :=
  match view .optional document with
  | .null => .ok none
  | .broken error => .error error
  | _ => (read document).map some

/-- What a reader meets that asks for more than a container has. -/
def Ending.demand : Ending → Read Unit
  | .whole => .ok ()
  | .inText none => .ok ()
  | .inText (some fault) => .error (.malformed fault.wanted)
  | .stopped error => .error error

def readList {β : Type} (read : α → Read β) : α → Read (List β) :=
  readView .sequence fun
    | .sequence elements ending => do
      let values ← elements.mapM read
      ending.demand
      return values
    | other => .error (other.mismatch "a sequence")

/-- The values of a mapping by key, in increasing order of the keys. -/
def readMap {β : Type} (read : α → Read β) : α → Read (List (String × β)) :=
  readView .mapping fun
    | .mapping fields ending => do
      let values ← fields.mapM fun (key, value) => do return (key, ← read value)
      ending.demand
      return sortByKey values
    | other => .error (other.mismatch "a map")

end Readers

end NicFlow
