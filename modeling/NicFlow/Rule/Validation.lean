import NicFlow.Action.Conf
import NicFlow.Item.Payload
import NicFlow.Log.Event
import NicFlow.Rule.Basic
import NicFlow.Rule.Error
import NicFlow.Text.Split

/-! Validation of rules. Each element is judged on its own; the lists must end with their terminator,
and the flags of the attributes are 0 or 1. The first violation in the order of the rule is reported. -/

namespace NicFlow

open Log

/-- Where a rule is used: on a node it needs actions, in the cluster they come later. -/
inductive Scope where
  | node | cluster
deriving DecidableEq, Repr

inductive Verdict where
  | accepted
  /-- Accepted, though the fields of some payload have no rules. -/
  | acceptedUnvalidated
deriving DecidableEq, Repr

def Verdict.name : Verdict → String
  | .accepted => "Accepted"
  | .acceptedUnvalidated => "AcceptedUnvalidated"

structure ValidatedItem where
  type : ItemType
  spec : Option ItemPayload
  last : Option ItemPayload
  mask : Option ItemPayload
  verdict : Verdict

structure ValidatedAction where
  type : ActionType
  conf : Option ActionConf
  verdict : Verdict

structure ValidatedRule where
  portId : UInt32
  attr : Attributes
  pattern : List ValidatedItem
  action : List ValidatedAction

/-- The verdict of a rule is the weakest of its elements'. -/
def ValidatedRule.verdict (rule : ValidatedRule) : Verdict :=
  if rule.pattern.any (·.verdict = .acceptedUnvalidated) ∨
      rule.action.any (·.verdict = .acceptedUnvalidated) then .acceptedUnvalidated
  else .accepted

namespace Validation

def target : String := "flowconfig_rte::validate"

/-- Reading IPv4 payloads reports their addresses. -/
def decodingEvents (payload : ItemPayload) : List Event :=
  if payload.shape = .ipv4 then
    let address (field : String) : String :=
      String.ofList (Text.hexDigits 8 (payload.shape.message.fields.number payload.value ["hdr", field]))
    let source := address "src_addr"
    let destination := address "dst_addr"
    [.trace "flowconfig_rte::decode" s!"ipv4 item: src 0x{source} dst 0x{destination}"]
  else []

/-- Reads a payload of a shape, with the events of reading it. -/
def decodePayload (shape : ItemShape) (raw : Json) : Traced PayloadError ItemPayload :=
  match ItemPayload.decode shape raw with
  | .ok payload => ⟨.ok payload, decodingEvents payload⟩
  | .error error => .fail error

/-- Reads the payload of an item in a role, if it has one. -/
def decodeRole (index : Nat) (type : ItemType) (shape : ItemShape) (role : Role) :
    Option Json → Traced FlowError (Option ItemPayload)
  | none => return none
  | some raw => do
    let payload ← (decodePayload shape raw).mapError (.itemDecode index type role)
    return some payload

/-- Checks the payloads of an item against each other. -/
def checkPayloads (index : Nat) (type : ItemType) (spec last mask : Option ItemPayload) :
    Except FlowError Unit :=
  let check (candidate spec : ItemPayload) (role : Role) : Except FlowError Unit :=
    (candidate.check spec role).mapError (.itemField index type role)
  match spec, last, mask with
  | some spec, last, mask => do
    check spec spec .spec
    match last with
    | some last => check last spec .last
    | none => .ok ()
    match mask with
    | some mask => check mask spec .mask
    | none => .ok ()
  | none, some _, _ => .error (.itemMissingSpec index type .last)
  | none, none, some _ => .error (.itemMissingSpec index type .mask)
  | none, none, none => .ok ()

def validateItem (index : Nat) (item : PatternItem) : Traced FlowError ValidatedItem :=
  match ItemType.ofName? item.type with
  | none => .fail (.unknownItemType index item.type)
  | some type =>
    match type.shape? with
    | none => do
      if item.spec.isSome ∨ item.last.isSome ∨ item.mask.isSome then
        .report (.debug target
          s!"{FlowError.itemPlace index type}: ignoring payload of an inert item")
      return ⟨type, none, none, none, .accepted⟩
    | some shape => do
      let spec ← decodeRole index type shape .spec item.spec
      let last ← decodeRole index type shape .last item.last
      let mask ← decodeRole index type shape .mask item.mask
      .of (checkPayloads index type spec last mask)
      if shape.isStrict then return ⟨type, spec, last, mask, .accepted⟩
      else
        .report (.warn target
          s!"{FlowError.itemPlace index type}: no field validation for this item type")
        return ⟨type, spec, last, mask, .acceptedUnvalidated⟩

/-- A configuration of an action whose type takes one. -/
def validateConf (index : Nat) (type : ActionType) (shape : ActionShape) (raw : Json) :
    Traced FlowError ValidatedAction := do
  let conf ← .of ((ActionConf.decode shape raw).mapError (.actionDecode index type))
  .of ((conf.check conf).mapError (.actionField index type))
  if shape.isStrict then return ⟨type, some conf, .accepted⟩
  else
    .report (.warn target
      s!"{FlowError.actionPlace index type}: no field validation for this action type")
    return ⟨type, some conf, .acceptedUnvalidated⟩

def validateAction (index : Nat) (action : RuleAction) : Traced FlowError ValidatedAction :=
  match ActionType.ofName? action.type with
  | none => .fail (.unknownActionType index action.type)
  | some type =>
    match type.shape?, type.confPolicy, action.conf with
    | _, .forbidden, some _ => .fail (.confForbidden index type)
    | _, .required, none => .fail (.confMissing index type)
    | some shape, _, some raw => validateConf index type shape raw
    | _, _, _ => return ⟨type, none, .accepted⟩

/-- Checks that a pattern ends with its terminator. -/
def checkPatternEnd (items : List ValidatedItem) : Except FlowError Unit :=
  match items.getLast? with
  | some item => if item.type = .terminator then .ok () else .error (.patternNotTerminated item.type)
  | none => .ok ()

/-- Checks that a list of actions ends with its terminator. -/
def checkActionsEnd (actions : List ValidatedAction) : Except FlowError Unit :=
  match actions.getLast? with
  | some action =>
    if action.type = .terminator then .ok () else .error (.actionsNotTerminated action.type)
  | none => .ok ()

def validatePattern (pattern : List PatternItem) : Traced FlowError (List ValidatedItem) := do
  let items ← Traced.forEachFrom validateItem 0 pattern
  .of (checkPatternEnd items)
  return items

def validateActions (scope : Scope) (actions : List RuleAction) :
    Traced FlowError (List ValidatedAction) := do
  if actions.isEmpty ∧ scope = .node then .fail .noActions
  else
    let validated ← Traced.forEachFrom validateAction 0 actions
    .of (checkActionsEnd validated)
    return validated

def checkFlag (flag : String) (value : UInt32) : Except FlowError Unit :=
  if value > 1 then .error (.invalidAttr flag value.toNat) else .ok ()

def validateAttributes (attributes : Attributes) : Except FlowError Unit := do
  checkFlag "ingress" attributes.ingress
  checkFlag "egress" attributes.egress
  checkFlag "transfer" attributes.transfer

/-- The work on one rule. -/
def span (rule : FlowRule) : Span :=
  ⟨.debug, target, "validate_rule", [("port_id", rule.portId.toNat)]⟩

def validateRule (scope : Scope) (rule : FlowRule) : Traced FlowError ValidatedRule :=
  .within (span rule) do
    let pattern ← validatePattern rule.pattern
    let action ← validateActions scope rule.action
    let attributes := rule.attr.getD .default
    .of (validateAttributes attributes)
    return ⟨rule.portId, attributes, pattern, action⟩

/-- What is reported when the types and shapes are looked up for the first time. -/
def registryEvent : Event :=
  .debug "flowconfig_rte::registry"
    s!"wire schema registry: {ItemType.all.length} item types, {ActionType.all.length} action types"

end Validation

end NicFlow
