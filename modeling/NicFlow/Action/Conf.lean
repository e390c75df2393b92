import NicFlow.Action.Type
import NicFlow.Address.Pci
import NicFlow.Field.Check

/-! Configurations of actions. They are read leniently, unknown fields being passed over, and some
shapes bound their fields. -/

namespace NicFlow

open Wire

/-- Whether actions of a type take a configuration. -/
inductive ConfPolicy where
  | forbidden | optional | required
deriving DecidableEq, Repr

def ActionType.confPolicy (type : ActionType) : ConfPolicy :=
  if type.isInert then .forbidden else if type = .count then .optional else .required

structure ActionConf where
  shape : ActionShape
  value : shape.Value

inductive ConfRule where
  | atMost (field : String) (max : Nat)
  | pciAddress (field : String)
deriving Repr

def ConfRule.check (rule : ConfRule) (fields : Fields) (value : fields.Value) :
    Except FieldError Unit :=
  match rule with
  | .atMost field max => checkMax field (fields.number value [field]) max
  | .pciAddress field =>
    match PciAddress.parse (fields.text value [field]) with
    | .ok _ => .ok ()
    | .error error => .error (.invalid field error.message)

namespace ActionShape

/-- The rules of a strict shape, in the order in which they are checked. -/
def rules? : ActionShape → Option (List ConfRule)
  | .vf => some [.atMost "original" 1, .atMost "id" 255]
  | .queue => some [.atMost "index" 65535]
  | .mark | .jump | .setMeta => some []
  | .portId => some [.atMost "original" 1, .atMost "id" 65535]
  | .setTag => some [.atMost "index" 255]
  | .setTtl => some [.atMost "ttl_value" 255]
  | .ofSetNwTtl => some [.atMost "nw_ttl" 255]
  | .ofSetMplsTtl => some [.atMost "mpls_ttl" 255]
  | .setTp => some [.atMost "port" 65535]
  | .setDscp => some [.atMost "dscp" 63]
  | .ofSetVlanVid => some [.atMost "vlan_vid" 4095]
  | .ofSetVlanPcp => some [.atMost "vlan_pcp" 7]
  | .vfPciAddr => some [.pciAddress "addr"]
  | _ => none

def isStrict (shape : ActionShape) : Bool := shape.rules?.isSome

end ActionShape

/-- Copies an object into a free-form message. -/
def decodeFreeForm : Json → Except PayloadError Struct
  | .object fields => .ok (Tree.ofFields fields)
  | .null => .error (.notAnObject "null")
  | .bool _ => .error (.notAnObject "a boolean")
  | .number _ => .error (.notAnObject "a number")
  | .string _ => .error (.notAnObject "a string")
  | .array _ => .error (.notAnObject "an array")

namespace ConfLayout

def decode : (layout : ConfLayout) → Json → Except PayloadError layout.Value
  | .declared message, raw => (message.read false raw).mapError .json
  | .freeForm, raw => decodeFreeForm raw

def decodeBytes : (layout : ConfLayout) → Bytes → Decoding layout.Value
  | .declared message, bytes => message.decode bytes
  | .freeForm, bytes => Tree.decodeStruct bytes

/-- Checks a declared configuration by rules; a free-form one has none. -/
def check (rules : List ConfRule) : (layout : ConfLayout) → layout.Value → Except FieldError Unit
  | .declared message, value => rules.forM fun rule => rule.check message.fields value
  | .freeForm, _ => .ok ()

end ConfLayout

namespace ActionConf

def decode (shape : ActionShape) (raw : Json) : Except PayloadError ActionConf := do
  let value ← shape.layout.decode raw
  return ⟨shape, value⟩

def decodeBytes (shape : ActionShape) (bytes : Bytes) : Decoding ActionConf := do
  let value ← shape.layout.decodeBytes bytes
  return ⟨shape, value⟩

/-- Checks a configuration in a role beside another one, which must have the same shape. The rules of
configurations look at neither; a configuration stands for itself. -/
def check (candidate spec : ActionConf) (_role : Role := .spec) : Except FieldError Unit :=
  if spec.shape = candidate.shape then
    candidate.shape.layout.check (candidate.shape.rules?.getD []) candidate.value
  else .error (.shapeMismatch spec.shape.messageName candidate.shape.messageName)

def encode (conf : ActionConf) : Bytes := conf.shape.layout.encode conf.value

def pack (conf : ActionConf) : Packed := .of conf.shape.messageName conf.encode

end ActionConf

end NicFlow
