import NicFlow.Action.Type
import NicFlow.Cluster.Rule
import NicFlow.Log.Event

/-! Translation of cluster rules into rules of nodes. An action that routes to an interface of a pod
becomes the action that names the device attached there. -/

namespace NicFlow

open Log

inductive TranslateError where
  | unsupportedAction (type : String)
  | invalidConf (action : String) (error : ReadError)
  | emptyInterface
  | missingStatus (pod : String)
  | unreadableStatus (pod : String) (error : ReadError)
  | interfaceNotFound (pod interface : String)
  | incorrectDeviceType (pod interface found : String)
  | missingPciAddress (pod interface : String)

def TranslateError.message : TranslateError → String
  | .unsupportedAction type => s!"unsupported cluster action type '{type}'"
  | .invalidConf action error => s!"invalid conf of cluster action '{action}': {error.message}"
  | .emptyInterface => "podInterface must not be empty"
  | .missingStatus pod => s!"pod {pod}: no network status annotation"
  | .unreadableStatus pod error =>
    s!"pod {pod}: cannot parse network status annotation: {error.message}"
  | .interfaceNotFound pod interface =>
    s!"pod {pod}: no network attachment with interface '{interface}'"
  | .incorrectDeviceType pod interface found =>
    s!"pod {pod}, interface {interface}: incorrect device type '{found}', expected 'pci'"
  | .missingPciAddress pod interface =>
    s!"pod {pod}, interface {interface}: missing pci-address"

/-- The attachments that the annotation of a pod lists. -/
def Pod.attachments (pod : Pod) : Except TranslateError (List Attachment) :=
  match pod.annotations.lookup Pod.statusKey with
  | none => .error (.missingStatus pod.key)
  | some text => (Attachment.parseList text).mapError (.unreadableStatus pod.key)

namespace Translation

def target : String := "flowconfig_cluster::translate"

/-- The address of the device at an interface: that of the first attachment of the interface. -/
def pciAddressOf (pod : String) (attachments : List Attachment) (interface : String) :
    Except TranslateError String :=
  match attachments.find? (·.interface = interface) with
  | none => .error (.interfaceNotFound pod interface)
  | some attachment =>
    let device := attachment.deviceInfo.getD ⟨"", "", none⟩
    if device.type ≠ "pci" then .error (.incorrectDeviceType pod interface device.type)
    else
      match device.pci with
      | some pci =>
        if pci.pciAddress.isEmpty then .error (.missingPciAddress pod interface)
        else .ok pci.pciAddress
      | none => .error (.missingPciAddress pod interface)

/-- What can be checked of an action without a pod. -/
def checkAction (action : ClusterAction) : Except TranslateError ToPodInterface :=
  match ClusterActionType.ofName? action.type with
  | none => .error (.unsupportedAction action.type)
  | some type => do
    let conf ← (ToPodInterface.reader.read (action.conf.getD .null)).mapError
      (.invalidConf type.name)
    if conf.podInterface.isEmpty then .error .emptyInterface else .ok conf

def checkRule (rule : ClusterRule) : Except TranslateError Unit :=
  rule.action.forM fun action => (checkAction action).map fun _ => ()

/-- The action that names a device by its address. -/
def deviceAction (address : String) : RuleAction :=
  ⟨ActionType.vfPciAddr.name, some (.ofFields [("addr", .string address)])⟩

def translateAction (action : ClusterAction) (pod : Pod) : Traced TranslateError RuleAction := do
  let conf ← .of (checkAction action)
  let attachments ← .of pod.attachments
  let address ← .of (pciAddressOf pod.key attachments conf.podInterface)
  .report (.debug target s!"pod {pod.key} interface {conf.podInterface} is VF {address}")
  return deviceAction address

def translateRule (rule : ClusterRule) (pod : Pod) : Traced TranslateError FlowRule := do
  let action ← Traced.forEach (translateAction · pod) rule.action
  return ⟨rule.portId, rule.pattern, action ++ [⟨ActionType.terminator.name, none⟩], rule.attr⟩

def translateForPod (config : ClusterConfig) (pod : Pod) :
    Traced TranslateError (List FlowRule) :=
  Traced.forEach (translateRule · pod) config.rules

/-- The node of a pod and its rules, unless the pod has no node or no annotation. -/
def translatePod (config : ClusterConfig) (pod : Pod) :
    Traced TranslateError (Option (String × List FlowRule)) :=
  match pod.nodeName with
  | none => do
    .report (.warn target s!"pod {pod.key} is not scheduled, skipping")
    return none
  | some nodeName =>
    match pod.attachments with
    | .error (.missingStatus key) => do
      let error := TranslateError.missingStatus key
      .report (.warn target s!"{error.message}, skipping")
      return none
    | _ => do
      let rules ← translateForPod config pod
      return some (nodeName, rules)

/-- Adds rules after those that a node has. -/
def addRules (nodes : List (String × List FlowRule)) (addition : String × List FlowRule) :
    List (String × List FlowRule) :=
  insertSorted addition.1 ((nodes.lookup addition.1).getD [] ++ addition.2) nodes

/-- The selected pods in the order of their keys. -/
def selectedPods (config : ClusterConfig) (pods : List Pod) : List Pod :=
  (pods.filter fun pod => config.podSelector.matches pod.labels).mergeSort
    fun left right => left.key ≤ right.key

/-- The rules of each node: those of its selected pods, one pod after the other. -/
def fanOut (config : ClusterConfig) (pods : List Pod) : Traced TranslateError (List NodeConfig) := do
  let translated ← Traced.forEach (translatePod config) (selectedPods config pods)
  let nodes := (translated.filterMap id).foldl addRules []
  return nodes.map fun (nodeName, rules) => ⟨nodeName, rules⟩

end Translation

end NicFlow
