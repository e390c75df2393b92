import NicFlow.Document.Basic

/-! Reading records. A record is written as a mapping from its field names, or, where documents allow
it, as the list of its fields in declaration order. -/

namespace NicFlow

/-- What happens when a field is not given. -/
inductive Presence where
  | required
  /-- May be left out of a mapping, but not of a list. -/
  | optional
  | defaulted
deriving DecidableEq

structure FieldName where
  name : String
  aliases : List String := []
  presence : Presence := .defaulted

/-- How a record of type `σ` is read from documents of type `α`. -/
structure RecordReader (α σ : Type) where
  name : String
  fields : List FieldName
  /-- Whether a name that is not a field is an error. -/
  closed : Bool
  start : σ
  /-- Reads the value of the field at a position into the record. -/
  assign : Nat → α → σ → Read σ

namespace RecordReader

variable {α σ : Type} [Document α]

/-- The names that a message about an unknown field lists. -/
def knownNames (reader : RecordReader α σ) : List String :=
  reader.fields.flatMap fun field => field.name :: field.aliases

def position? (reader : RecordReader α σ) (key : String) : Option Nat :=
  reader.fields.findIdx? fun field => field.name = key ∨ key ∈ field.aliases

def fieldName (reader : RecordReader α σ) (position : Nat) : String :=
  match reader.fields[position]? with
  | some field => field.name
  | none => ""

/-- Reads the entries of a mapping in their order; `seen` holds the positions read so far. -/
def readEntries (reader : RecordReader α σ) (seen : List Nat) (record : σ) :
    List (String × α) → Read (List Nat × σ)
  | [] => .ok (seen, record)
  | (key, value) :: rest =>
    match reader.position? key with
    | none =>
      if reader.closed then
        .error (Document.locateName value (.unknownField key reader.knownNames))
      else do
        Document.skip value
        reader.readEntries seen record rest
    | some position =>
      if position ∈ seen then .error (.duplicateField (reader.fieldName position))
      else do
        let record ← reader.assign position value record
        reader.readEntries (position :: seen) record rest

/-- The first required field that was not read. -/
def missing? (reader : RecordReader α σ) (seen : List Nat) : Option String :=
  (reader.fields.zipIdx.find? fun (field, position) =>
    field.presence = .required ∧ position ∉ seen).map fun (field, _) => field.name

/-- Reads a list of fields from a position on. -/
def readPositions (reader : RecordReader α σ) (length : Nat) (ending : Ending) :
    List FieldName → Nat → List α → σ → Read σ
  | [], _, [], record =>
    match ending with
    | .inText (some fault) => .error (.malformed fault.closed)
    | .stopped error => .error error
    | _ => .ok record
  | [], _, _ :: _, _ =>
    match ending with
    | .inText _ => .error (.malformed .trailingCharacters)
    | _ => .error (.tooLong length)
  | field :: fields, position, [], record => do
    ending.demand
    if field.presence = .defaulted then
      reader.readPositions length ending fields (position + 1) [] record
    else .error (.tooShort position reader.name reader.fields.length)
  | _ :: fields, position, value :: rest, record => do
    let record ← reader.assign position value record
    reader.readPositions length ending fields (position + 1) rest record

def read (reader : RecordReader α σ) : α → Read σ :=
  readView .record fun
    | .mapping fields ending => do
      let (seen, record) ← reader.readEntries [] reader.start fields
      ending.demand
      match reader.missing? seen with
      | some name => .error (.missingField name)
      | none => .ok record
    | .sequence elements ending =>
      if Document.listsAsRecords α then
        reader.readPositions elements.length ending reader.fields 0 elements reader.start
      else .error (.wrongType .sequence ("struct " ++ reader.name))
    | other => .error (other.mismatch ("struct " ++ reader.name))

end RecordReader

end NicFlow
