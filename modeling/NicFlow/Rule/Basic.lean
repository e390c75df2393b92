import NicFlow.Wire.Message

/-! Flow rules as they are written: a port, a pattern of items to match, the actions to take, and
attributes. Payloads and configurations are JSON values whose form follows from the type name. -/

namespace NicFlow

open Wire

/-- An element of a pattern. -/
structure PatternItem where
  type : String
  spec : Option Json
  last : Option Json
  mask : Option Json

structure RuleAction where
  type : String
  conf : Option Json

/-- The attributes of a rule as they are sent. -/
structure Attributes where
  group : UInt32
  priority : UInt32
  ingress : UInt32
  egress : UInt32
  transfer : UInt32
  reserved : UInt32
deriving DecidableEq, Repr

structure FlowRule where
  portId : UInt32
  pattern : List PatternItem
  action : List RuleAction
  attr : Option Attributes

namespace Attributes

def message : Message :=
  ⟨"RteFlowAttr",
    .ofWords ["group", "priority", "ingress", "egress", "transfer", "reserved"]⟩

def ofValue : message.Value → Attributes
  | (group, priority, ingress, egress, transfer, reserved, _) =>
    ⟨group, priority, ingress, egress, transfer, reserved⟩

def toValue (attributes : Attributes) : message.Value :=
  (attributes.group, attributes.priority, attributes.ingress, attributes.egress,
    attributes.transfer, attributes.reserved, ())

/-- The attributes of a rule that gives none. -/
def default : Attributes := ofValue message.fields.default

def read {α : Type} [Document α] (document : α) : Read Attributes :=
  (message.read true document).map ofValue

def toJson (attributes : Attributes) : Json := message.toJson attributes.toValue

end Attributes

/-- The entry of an optional field, if it is there. -/
def optionalEntry {β : Type} (key : String) (write : β → Json) : Option β → List (String × Json)
  | some value => [(key, write value)]
  | none => []

section Reading

variable {α : Type} [Document α]

def PatternItem.reader : RecordReader α PatternItem where
  name := "FlowItem"
  fields := [{ name := "type", presence := .required }, { name := "spec" }, { name := "last" },
    { name := "mask" }]
  closed := true
  start := ⟨"", none, none, none⟩
  assign position document item :=
    match position with
    | 0 => do return { item with type := ← readString document }
    | 1 => do return { item with spec := ← readOption Document.raw document }
    | 2 => do return { item with last := ← readOption Document.raw document }
    | _ => do return { item with mask := ← readOption Document.raw document }

def RuleAction.reader : RecordReader α RuleAction where
  name := "FlowAction"
  fields := [{ name := "type", presence := .required }, { name := "conf" }]
  closed := true
  start := ⟨"", none⟩
  assign position document action :=
    match position with
    | 0 => do return { action with type := ← readString document }
    | _ => do return { action with conf := ← readOption Document.raw document }

def FlowRule.reader : RecordReader α FlowRule where
  name := "FlowRule"
  fields := [{ name := "portId" }, { name := "pattern" }, { name := "action" }, { name := "attr" }]
  closed := true
  start := ⟨0, [], [], none⟩
  assign position document rule :=
    match position with
    | 0 => do return { rule with portId := ← readUInt32 document }
    | 1 => do return { rule with pattern := ← readList PatternItem.reader.read document }
    | 2 => do return { rule with action := ← readList RuleAction.reader.read document }
    | _ => do return { rule with attr := ← readOption Attributes.read document }

end Reading

def PatternItem.toJson (item : PatternItem) : Json :=
  .ofFields ([("type", .string item.type)] ++ optionalEntry "spec" id item.spec ++
    optionalEntry "last" id item.last ++ optionalEntry "mask" id item.mask)

def RuleAction.toJson (action : RuleAction) : Json :=
  .ofFields ([("type", .string action.type)] ++ optionalEntry "conf" id action.conf)

def FlowRule.toJson (rule : FlowRule) : Json :=
  .ofFields ([("portId", .ofNat rule.portId.toNat),
    ("pattern", .array (rule.pattern.map PatternItem.toJson)),
    ("action", .array (rule.action.map RuleAction.toJson))] ++
    optionalEntry "attr" Attributes.toJson rule.attr)

end NicFlow
