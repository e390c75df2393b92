import NicFlow.Cluster.Pod

/-! Rules for the pods of a cluster, whose actions name an interface of a pod, and the rules of a node
that they become. -/

namespace NicFlow

structure ClusterAction where
  type : String
  conf : Option Json

structure ClusterRule where
  portId : UInt32
  pattern : List PatternItem
  action : List ClusterAction
  attr : Option Attributes

structure ClusterConfig where
  podSelector : LabelSelector
  rules : List ClusterRule

structure NodeConfig where
  nodeName : String
  rules : List FlowRule

inductive ClusterActionType where
  | toPodInterface
deriving DecidableEq, Repr

namespace ClusterActionType

def name : ClusterActionType → String
  | .toPodInterface => "route-to-pod-interface"

/-- A type is known by its name and by an older name. -/
def ofName? (name : String) : Option ClusterActionType :=
  if name = "route-to-pod-interface" ∨ name = "to-pod-interface" then some .toPodInterface
  else none

end ClusterActionType

/-- The configuration of an action that routes to an interface of the pod. -/
structure ToPodInterface where
  podInterface : String
deriving DecidableEq

section Reading

variable {α : Type} [Document α]

def ToPodInterface.reader : RecordReader α ToPodInterface where
  name := "ToPodInterfaceConf"
  fields := [{ name := "podInterface", aliases := ["podInterfaceName"], presence := .required }]
  closed := true
  start := ⟨""⟩
  assign _ document conf := do return { conf with podInterface := ← readString document }

def ClusterAction.reader : RecordReader α ClusterAction where
  name := "ClusterFlowAction"
  fields := [{ name := "type", presence := .required }, { name := "conf" }]
  closed := true
  start := ⟨"", none⟩
  assign position document action :=
    match position with
    | 0 => do return { action with type := ← readString document }
    | _ => do return { action with conf := ← readOption Document.raw document }

def ClusterRule.reader : RecordReader α ClusterRule where
  name := "ClusterFlowRule"
  fields := [{ name := "portId" }, { name := "pattern" }, { name := "action" }, { name := "attr" }]
  closed := true
  start := ⟨0, [], [], none⟩
  assign position document rule :=
    match position with
    | 0 => do return { rule with portId := ← readUInt32 document }
    | 1 => do return { rule with pattern := ← readList PatternItem.reader.read document }
    | 2 => do return { rule with action := ← readList ClusterAction.reader.read document }
    | _ => do return { rule with attr := ← readOption Attributes.read document }

def ClusterConfig.reader : RecordReader α ClusterConfig where
  name := "ClusterFlowConfig"
  fields := [{ name := "podSelector" }, { name := "rules" }]
  closed := true
  start := ⟨⟨[]⟩, []⟩
  assign position document config :=
    match position with
    | 0 => do return { config with podSelector := ← LabelSelector.reader.read document }
    | _ => do return { config with rules := ← readList ClusterRule.reader.read document }

def NodeConfig.reader : RecordReader α NodeConfig where
  name := "NodeFlowConfig"
  fields := [{ name := "nodeName" }, { name := "rules" }]
  closed := true
  start := ⟨"", []⟩
  assign position document config :=
    match position with
    | 0 => do return { config with nodeName := ← readString document }
    | _ => do return { config with rules := ← readList FlowRule.reader.read document }

end Reading

namespace ClusterAction

/-- The action that routes to an interface. -/
def toPodInterface (interface : String) : ClusterAction :=
  ⟨ClusterActionType.toPodInterface.name,
    some (.ofFields [("podInterface", .string interface)])⟩

def toJson (action : ClusterAction) : Json :=
  .ofFields ([("type", .string action.type)] ++ optionalEntry "conf" id action.conf)

end ClusterAction

def ToPodInterface.toJson (conf : ToPodInterface) : Json :=
  .ofFields [("podInterface", .string conf.podInterface)]

def ClusterRule.toJson (rule : ClusterRule) : Json :=
  .ofFields ([("portId", .ofNat rule.portId.toNat),
    ("pattern", .array (rule.pattern.map PatternItem.toJson)),
    ("action", .array (rule.action.map ClusterAction.toJson))] ++
    optionalEntry "attr" Attributes.toJson rule.attr)

def ClusterConfig.toJson (config : ClusterConfig) : Json :=
  .ofFields [("podSelector", config.podSelector.toJson),
    ("rules", .array (config.rules.map ClusterRule.toJson))]

def NodeConfig.toJson (config : NodeConfig) : Json :=
  .ofFields [("nodeName", .string config.nodeName),
    ("rules", .array (config.rules.map FlowRule.toJson))]

end NicFlow
