import NicFlow.Rule.Validation

/-! The request that creates a flow: a validated rule with its types as numbers and its payloads
packed. -/

namespace NicFlow

open Wire

structure RequestItem where
  type : Int32
  spec : Option Packed
  last : Option Packed
  mask : Option Packed
deriving DecidableEq

structure RequestAction where
  type : Int32
  conf : Option Packed
deriving DecidableEq

structure CreateRequest where
  portId : UInt32
  attr : Option Attributes
  pattern : List RequestItem
  action : List RequestAction
deriving DecidableEq

namespace Wire.Packed

def fields : Fields := .ofList [("type_url", .string), ("value", .bytes)]

def toValue (packed : Packed) : fields.Value := (packed.typeUrl, packed.value, ())

def ofValue : fields.Value → Packed
  | (typeUrl, value, _) => ⟨typeUrl, value⟩

/-- A field that holds a packed message. -/
def kind : Kind := .message "Any" fields

end Wire.Packed

namespace RequestItem

def fields : Fields :=
  .ofList [("type", .int32), ("spec", Packed.kind), ("last", Packed.kind), ("mask", Packed.kind)]

def toValue (item : RequestItem) : fields.Value :=
  (item.type, item.spec.map Packed.toValue, item.last.map Packed.toValue,
    item.mask.map Packed.toValue, ())

def ofValue : fields.Value → RequestItem
  | (type, (spec : Option _), (last : Option _), (mask : Option _), _) =>
    ⟨type, spec.map Packed.ofValue, last.map Packed.ofValue, mask.map Packed.ofValue⟩

end RequestItem

namespace RequestAction

def fields : Fields := .ofList [("type", .int32), ("conf", Packed.kind)]

def toValue (action : RequestAction) : fields.Value :=
  (action.type, action.conf.map Packed.toValue, ())

def ofValue : fields.Value → RequestAction
  | (type, (conf : Option _), _) => ⟨type, conf.map Packed.ofValue⟩

end RequestAction

namespace CreateRequest

def message : Message :=
  ⟨"RequestFlowCreate", .ofList
    [("port_id", .uint32), ("attr", .message "RteFlowAttr" Attributes.message.fields),
     ("pattern", .messages "RteFlowItem" RequestItem.fields),
     ("action", .messages "RteFlowAction" RequestAction.fields)]⟩

def toValue (request : CreateRequest) : message.Value :=
  (request.portId, request.attr.map Attributes.toValue, request.pattern.map RequestItem.toValue,
    request.action.map RequestAction.toValue, ())

def ofValue : message.Value → CreateRequest
  | (portId, (attr : Option _), (pattern : List _), (action : List _), _) =>
    ⟨portId, attr.map Attributes.ofValue, pattern.map RequestItem.ofValue,
      action.map RequestAction.ofValue⟩

def encode (request : CreateRequest) : Bytes := message.encode request.toValue

def decode (bytes : Bytes) : Decoding CreateRequest := (message.decode bytes).map ofValue

/-- A request that names only a port. -/
def empty (portId : UInt32) : CreateRequest := ⟨portId, none, [], []⟩

end CreateRequest

def ValidatedItem.toRequest (item : ValidatedItem) : RequestItem where
  type := Int32.ofNat item.type.number
  spec := item.spec.map ItemPayload.pack
  last := item.last.map ItemPayload.pack
  mask := item.mask.map ItemPayload.pack

def ValidatedAction.toRequest (action : ValidatedAction) : RequestAction where
  type := Int32.ofNat action.type.number
  conf := action.conf.map ActionConf.pack

def ValidatedRule.toRequest (rule : ValidatedRule) : CreateRequest where
  portId := rule.portId
  attr := some rule.attr
  pattern := rule.pattern.map ValidatedItem.toRequest
  action := rule.action.map ValidatedAction.toRequest

end NicFlow
