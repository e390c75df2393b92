import NicFlow.Cluster.Rule
import NicFlow.Proofs.PayloadForms

/-! Rules that are written as JSON and read again. Of all rules only those change that have a null where a
payload may be left out, for null is read as nothing. -/

namespace NicFlow

open Log Traced

/-- A payload that is null is read as none. -/
def unlessNull : Option Json → Option Json
  | some .null => none
  | payload => payload

theorem readOption_raw (payload : Json) : readOption Document.raw payload = .ok (unlessNull (some payload)) := by
  cases payload <;> rfl

private theorem unlessNull_eq_iff {payload : Option Json} : unlessNull payload = payload ↔ payload ≠ some .null := by
  cases payload with
  | none => simp [unlessNull]
  | some json => cases json <;> simp [unlessNull]

private theorem map_eq_self_iff {β : Type} {f : β → β} {values : List β} :
    values.map f = values ↔ ∀ value ∈ values, f value = value := by
  simpa using List.map_inj_left (f := f) (g := id) (l := values)

namespace PatternItem

/-- The item as it is read back. -/
def settled (item : PatternItem) : PatternItem :=
  ⟨item.type, unlessNull item.spec, unlessNull item.last, unlessNull item.mask⟩

/-- What is written for the field at a position. -/
def form? (item : PatternItem) (position : Nat) : Option Json :=
  match position with
  | 0 => some (.string item.type)
  | 1 => item.spec
  | 2 => item.last
  | 3 => item.mask
  | _ => none

def take (item : PatternItem) (position : Nat) (other : PatternItem) : PatternItem :=
  match position with
  | 0 => { other with type := item.type }
  | 1 => { other with spec := item.spec }
  | 2 => { other with last := item.last }
  | 3 => { other with mask := item.mask }
  | _ => other

theorem eq_of_take {item other : PatternItem} (taken : ∀ position, item.take position other = other) :
    other = item := by
  calc other
    _ = item.take 3 (item.take 2 (item.take 1 (item.take 0 other))) := by
      rw [taken 0, taken 1, taken 2, taken 3]
    _ = item := rfl

theorem restores (item : PatternItem) : reader.Restores item.settled.take item.form? where
  unaliased := by simp [reader]
  distinct := by decide
  comm left right record := by
    rcases left with _ | _ | _ | _ | left <;> rcases right with _ | _ | _ | _ | right <;> rfl
  idem position record := by rcases position with _ | _ | _ | _ | position <;> rfl
  present position value given record := by
    obtain ⟨type, spec, last, mask⟩ := item
    rcases position with _ | _ | _ | _ | position <;> cases given
    · rfl
    all_goals simp [reader, readOption_raw, take, settled]
  absent position given := by
    obtain ⟨type, spec, last, mask⟩ := item
    rcases position with _ | _ | _ | _ | position <;> cases given <;> rfl
  declared position value given := by
    rcases position with _ | _ | _ | _ | position
    all_goals first | decide | cases given
  required position field found required := by
    rcases position with _ | _ | _ | _ | position <;> cases found
    · rfl
    all_goals cases required

theorem written_form? (item : PatternItem) : Json.ofFields (reader.written item.form?) = item.toJson := by
  rcases item with ⟨type, _ | spec, _ | last, _ | mask⟩ <;> rfl

theorem read_toJson (item : PatternItem) : reader.read item.toJson = .ok item.settled := by
  obtain ⟨result, read, taken⟩ := item.restores.read
  rwa [written_form?, eq_of_take taken] at read

/-- No payload is a null that is there. -/
structure NullFree (item : PatternItem) : Prop where
  spec : item.spec ≠ some .null
  last : item.last ≠ some .null
  mask : item.mask ≠ some .null

theorem settled_eq_iff {item : PatternItem} : item.settled = item ↔ item.NullFree := by
  obtain ⟨type, spec, last, mask⟩ := item
  simp only [settled, mk.injEq, unlessNull_eq_iff, true_and]
  constructor
  · intro ⟨spec, last, mask⟩
    exact ⟨spec, last, mask⟩
  · intro free
    exact ⟨free.spec, free.last, free.mask⟩

end PatternItem

namespace RuleAction

def settled (action : RuleAction) : RuleAction := ⟨action.type, unlessNull action.conf⟩

def form? (action : RuleAction) (position : Nat) : Option Json :=
  match position with
  | 0 => some (.string action.type)
  | 1 => action.conf
  | _ => none

def take (action : RuleAction) (position : Nat) (other : RuleAction) : RuleAction :=
  match position with
  | 0 => { other with type := action.type }
  | 1 => { other with conf := action.conf }
  | _ => other

theorem eq_of_take {action other : RuleAction} (taken : ∀ position, action.take position other = other) :
    other = action := by
  calc other
    _ = action.take 1 (action.take 0 other) := by rw [taken 0, taken 1]
    _ = action := rfl

theorem restores (action : RuleAction) : reader.Restores action.settled.take action.form? where
  unaliased := by simp [reader]
  distinct := by decide
  comm left right record := by
    rcases left with _ | _ | left <;> rcases right with _ | _ | right <;> rfl
  idem position record := by rcases position with _ | _ | position <;> rfl
  present position value given record := by
    obtain ⟨type, conf⟩ := action
    rcases position with _ | _ | position <;> cases given
    · rfl
    · simp [reader, readOption_raw, take, settled]
  absent position given := by
    obtain ⟨type, conf⟩ := action
    rcases position with _ | _ | position <;> cases given <;> rfl
  declared position value given := by
    rcases position with _ | _ | position
    all_goals first | decide | cases given
  required position field found required := by
    rcases position with _ | _ | position <;> cases found
    · rfl
    · cases required

theorem written_form? (action : RuleAction) : Json.ofFields (reader.written action.form?) = action.toJson := by
  rcases action with ⟨type, _ | conf⟩ <;> rfl

theorem read_toJson (action : RuleAction) : reader.read action.toJson = .ok action.settled := by
  obtain ⟨result, read, taken⟩ := action.restores.read
  rwa [written_form?, eq_of_take taken] at read

theorem settled_eq_iff {action : RuleAction} : action.settled = action ↔ action.conf ≠ some .null := by
  obtain ⟨type, conf⟩ := action
  simp only [settled, mk.injEq, unlessNull_eq_iff, true_and]

end RuleAction

theorem Attributes.read_toJson (attributes : Attributes) : Attributes.read attributes.toJson = .ok attributes := by
  rw [Attributes.read, Attributes.toJson, message.read_toJson (by decide)]
  rfl

namespace FlowRule

def settled (rule : FlowRule) : FlowRule :=
  ⟨rule.portId, rule.pattern.map PatternItem.settled, rule.action.map RuleAction.settled, rule.attr⟩

def form? (rule : FlowRule) (position : Nat) : Option Json :=
  match position with
  | 0 => some (.ofNat rule.portId.toNat)
  | 1 => some (.array (rule.pattern.map PatternItem.toJson))
  | 2 => some (.array (rule.action.map RuleAction.toJson))
  | 3 => rule.attr.map Attributes.toJson
  | _ => none

def take (rule : FlowRule) (position : Nat) (other : FlowRule) : FlowRule :=
  match position with
  | 0 => { other with portId := rule.portId }
  | 1 => { other with pattern := rule.pattern }
  | 2 => { other with action := rule.action }
  | 3 => { other with attr := rule.attr }
  | _ => other

theorem eq_of_take {rule other : FlowRule} (taken : ∀ position, rule.take position other = other) :
    other = rule := by
  calc other
    _ = rule.take 3 (rule.take 2 (rule.take 1 (rule.take 0 other))) := by
      rw [taken 0, taken 1, taken 2, taken 3]
    _ = rule := rfl

theorem restores (rule : FlowRule) : reader.Restores rule.settled.take rule.form? where
  unaliased := by simp [reader]
  distinct := by decide
  comm left right record := by
    rcases left with _ | _ | _ | _ | left <;> rcases right with _ | _ | _ | _ | right <;> rfl
  idem position record := by rcases position with _ | _ | _ | _ | position <;> rfl
  present position value given record := by
    obtain ⟨portId, pattern, action, attr⟩ := rule
    have items : readList PatternItem.reader.read (Json.array (pattern.map PatternItem.toJson)) =
        .ok (pattern.map PatternItem.settled) :=
      readList_map (List.forall₂_map_right_iff.mpr (List.forall₂_same.mpr fun item _ => PatternItem.read_toJson item))
    have actions : readList RuleAction.reader.read (Json.array (action.map RuleAction.toJson)) =
        .ok (action.map RuleAction.settled) :=
      readList_map (List.forall₂_map_right_iff.mpr (List.forall₂_same.mpr fun action _ => RuleAction.read_toJson action))
    rcases position with _ | _ | _ | _ | position
    · cases given
      simp [reader, readUInt32_ofNat, take, settled]
    · cases given
      simp [reader, items, take, settled]
    · cases given
      simp [reader, actions, take, settled]
    · cases attr with
      | none => cases given
      | some attributes =>
        cases given
        have present : attributes.toJson ≠ .null := by
          intro impossible
          cases impossible
        simp [reader, readOption_present present, attributes.read_toJson, take, settled, Except.map]
    · cases given
  absent position given := by
    obtain ⟨portId, pattern, action, attr⟩ := rule
    rcases position with _ | _ | _ | _ | position
    · cases given
    · cases given
    · cases given
    · cases Option.map_eq_none_iff.mp given
      rfl
    · rfl
  declared position value given := by
    rcases position with _ | _ | _ | _ | position
    all_goals first | decide | cases given
  required position field found required := by
    rcases position with _ | _ | _ | _ | position <;> cases found
    all_goals cases required

theorem written_form? (rule : FlowRule) : Json.ofFields (reader.written rule.form?) = rule.toJson := by
  rcases rule with ⟨portId, pattern, action, _ | attributes⟩ <;> rfl

theorem read_toJson (rule : FlowRule) : reader.read rule.toJson = .ok rule.settled := by
  obtain ⟨result, read, taken⟩ := rule.restores.read
  rwa [written_form?, eq_of_take taken] at read

/-- No payload and no configuration is a null that is there. -/
structure NullFree (rule : FlowRule) : Prop where
  pattern : ∀ item ∈ rule.pattern, item.NullFree
  action : ∀ action ∈ rule.action, action.conf ≠ some .null

theorem settled_eq_iff {rule : FlowRule} : rule.settled = rule ↔ rule.NullFree := by
  obtain ⟨portId, pattern, action, attr⟩ := rule
  simp only [settled, mk.injEq, true_and, and_true, map_eq_self_iff, PatternItem.settled_eq_iff,
    RuleAction.settled_eq_iff]
  constructor
  · intro ⟨items, actions⟩
    exact ⟨items, actions⟩
  · intro free
    exact ⟨free.pattern, free.action⟩

end FlowRule

namespace NodeConfig

def settled (config : NodeConfig) : NodeConfig := ⟨config.nodeName, config.rules.map FlowRule.settled⟩

def form? (config : NodeConfig) (position : Nat) : Option Json :=
  match position with
  | 0 => some (.string config.nodeName)
  | 1 => some (.array (config.rules.map FlowRule.toJson))
  | _ => none

def take (config : NodeConfig) (position : Nat) (other : NodeConfig) : NodeConfig :=
  match position with
  | 0 => { other with nodeName := config.nodeName }
  | 1 => { other with rules := config.rules }
  | _ => other

theorem eq_of_take {config other : NodeConfig} (taken : ∀ position, config.take position other = other) :
    other = config := by
  calc other
    _ = config.take 1 (config.take 0 other) := by rw [taken 0, taken 1]
    _ = config := rfl

theorem restores (config : NodeConfig) : reader.Restores config.settled.take config.form? where
  unaliased := by simp [reader]
  distinct := by decide
  comm left right record := by
    rcases left with _ | _ | left <;> rcases right with _ | _ | right <;> rfl
  idem position record := by rcases position with _ | _ | position <;> rfl
  present position value given record := by
    have rules : readList FlowRule.reader.read (Json.array (config.rules.map FlowRule.toJson)) =
        .ok (config.rules.map FlowRule.settled) :=
      readList_map (List.forall₂_map_right_iff.mpr (List.forall₂_same.mpr fun rule _ => FlowRule.read_toJson rule))
    rcases position with _ | _ | position <;> cases given
    · rfl
    · simp [reader, rules, take, settled]
  absent position given := by
    rcases position with _ | _ | position <;> cases given
    rfl
  declared position value given := by
    rcases position with _ | _ | position
    all_goals first | decide | cases given
  required position field found required := by
    rcases position with _ | _ | position <;> cases found
    all_goals cases required

theorem read_toJson (config : NodeConfig) : reader.read config.toJson = .ok config.settled := by
  obtain ⟨result, read, taken⟩ := config.restores.read
  rwa [eq_of_take taken] at read

def NullFree (config : NodeConfig) : Prop := ∀ rule ∈ config.rules, rule.NullFree

theorem settled_eq_iff {config : NodeConfig} : config.settled = config ↔ config.NullFree := by
  obtain ⟨nodeName, rules⟩ := config
  simp only [settled, mk.injEq, true_and, map_eq_self_iff, FlowRule.settled_eq_iff, NullFree]

end NodeConfig

/-- No payload of the pattern is a null that is there. -/
def ClusterRule.NullFree (rule : ClusterRule) : Prop := ∀ item ∈ rule.pattern, item.NullFree

def ClusterConfig.NullFree (config : ClusterConfig) : Prop := ∀ rule ∈ config.rules, rule.NullFree

end NicFlow
