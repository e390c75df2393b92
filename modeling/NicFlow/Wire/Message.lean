import NicFlow.Wire.Decoding
import NicFlow.Wire.JsonForm

/-! Named messages of the flow service, and their packed form: the encoding of a message together with
its full name. -/

namespace NicFlow.Wire

structure Message where
  name : String
  fields : Fields

namespace Message

abbrev Value (message : Message) : Type := message.fields.Value

/-- The name with the package of the flow service. -/
def fullName (message : Message) : String := "flow." ++ message.name

def encode (message : Message) (value : message.Value) : Bytes := message.fields.encode value

def decode (message : Message) (bytes : Bytes) : Decoding message.Value :=
  message.fields.decode message.name bytes

def toJson (message : Message) (value : message.Value) : Json := message.fields.toJson value

/-- Reads the JSON form; a `closed` message refuses unknown fields at every level. -/
def read {α : Type} [Document α] (message : Message) (closed : Bool) (document : α) :
    Read message.Value :=
  message.fields.read message.name closed document

end Message

/-- A message together with the name of its type. -/
structure Packed where
  typeUrl : String
  value : Bytes
deriving DecidableEq, Repr

def Packed.of (messageName : String) (value : Bytes) : Packed :=
  ⟨"type.googleapis.com/" ++ messageName, value⟩

end NicFlow.Wire
