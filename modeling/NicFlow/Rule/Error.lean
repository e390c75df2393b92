import NicFlow.Action.Type
import NicFlow.Field.Check
import NicFlow.Item.Type

/-! Why a rule is refused. Errors of elements carry the position of the element in its list. -/

namespace NicFlow

inductive FlowError where
  | unknownItemType (index : Nat) (name : String)
  | unknownActionType (index : Nat) (name : String)
  | itemDecode (index : Nat) (type : ItemType) (role : Role) (source : PayloadError)
  | itemMissingSpec (index : Nat) (type : ItemType) (role : Role)
  | itemField (index : Nat) (type : ItemType) (role : Role) (source : FieldError)
  | patternNotTerminated (type : ItemType)
  | confMissing (index : Nat) (type : ActionType)
  | confForbidden (index : Nat) (type : ActionType)
  | actionDecode (index : Nat) (type : ActionType) (source : PayloadError)
  | actionField (index : Nat) (type : ActionType) (source : FieldError)
  | actionsNotTerminated (type : ActionType)
  | noActions
  | invalidAttr (flag : String) (value : Nat)

namespace FlowError

/-- How messages name an item of a pattern. -/
def itemPlace (index : Nat) (type : ItemType) : String := s!"pattern[{index}] ({type})"

/-- How messages name an action. -/
def actionPlace (index : Nat) (type : ActionType) : String := s!"action[{index}] ({type})"

def message : FlowError → String
  | .unknownItemType index name => s!"pattern[{index}]: {ItemType.unknownMessage name}"
  | .unknownActionType index name => s!"action[{index}]: {ActionType.unknownMessage name}"
  | .itemDecode index type role source =>
    s!"{itemPlace index type}: cannot decode {role.name}: {source.message}"
  | .itemMissingSpec index type role => s!"{itemPlace index type}: {role.name} requires a spec"
  | .itemField index type role source =>
    s!"{itemPlace index type}: {role.name}: {source.message}"
  | .patternNotTerminated type =>
    s!"last pattern element must be RTE_FLOW_ITEM_TYPE_END, got {type}"
  | .confMissing index type => s!"{actionPlace index type}: conf is required"
  | .confForbidden index type => s!"{actionPlace index type}: conf is not allowed"
  | .actionDecode index type source =>
    s!"{actionPlace index type}: cannot decode conf: {source.message}"
  | .actionField index type source => s!"{actionPlace index type}: conf: {source.message}"
  | .actionsNotTerminated type =>
    s!"last action element must be RTE_FLOW_ACTION_TYPE_END, got {type}"
  | .noActions => "a rule needs at least one action"
  | .invalidAttr flag value => s!"attr.{flag} must be 0 or 1, got {value}"

end FlowError

end NicFlow
