import Mathlib.Data.List.Nodup
import NicFlow.Flow.Fingerprint
import NicFlow.Proofs.RuleMessages
import NicFlow.Proofs.TreeEncoding

/-! The binary form of a request tells the rule that it was made from. Types are numbered and
payloads named without repetition, and the form of a payload is taken apart by its name. -/

namespace NicFlow

open Wire

section Names

theorem ItemType.ofNumber?_number (type : ItemType) :
    ofNumber? (Int32.ofNat type.number).toInt = some type := by
  cases type <;> rfl

theorem ActionType.ofNumber?_number (type : ActionType) :
    ofNumber? (Int32.ofNat type.number).toInt = some type := by
  cases type <;> rfl

theorem ItemType.number_inj {left right : ItemType}
    (same : Int32.ofNat left.number = Int32.ofNat right.number) : left = right := by
  have found := left.ofNumber?_number
  rw [same, right.ofNumber?_number] at found
  exact (Option.some.inj found).symm

theorem ActionType.number_inj {left right : ActionType}
    (same : Int32.ofNat left.number = Int32.ofNat right.number) : left = right := by
  have found := left.ofNumber?_number
  rw [same, right.ofNumber?_number] at found
  exact (Option.some.inj found).symm

theorem ItemShape.mem_all (shape : ItemShape) : shape ∈ all := by
  cases shape <;> decide

theorem ActionShape.mem_all (shape : ActionShape) : shape ∈ all := by
  cases shape <;> decide

theorem ItemShape.names_nodup : (all.map fun shape => shape.message.name).Nodup := by
  decide +kernel

theorem ActionShape.names_nodup : (all.map messageName).Nodup := by
  decide +kernel

theorem ItemShape.messageName_inj {left right : ItemShape} (same : left.messageName = right.messageName) :
    left = right := by
  have names : left.message.name = right.message.name := (String.append_right_inj _).mp same
  exact List.inj_on_of_nodup_map names_nodup left.mem_all right.mem_all names

theorem ActionShape.messageName_inj {left right : ActionShape}
    (same : left.messageName = right.messageName) : left = right :=
  List.inj_on_of_nodup_map names_nodup left.mem_all right.mem_all same

theorem Wire.Packed.of_inj {leftName rightName : String} {left right : Bytes}
    (same : Packed.of leftName left = Packed.of rightName right) : leftName = rightName ∧ left = right := by
  obtain ⟨names, contents⟩ := Packed.mk.inj same
  exact ⟨(String.append_right_inj _).mp names, contents⟩

end Names

section Sizes

private theorem Wire.Kind.length_le_encode_bytes (number : Nat) (value : Bytes) :
    value.length ≤ (Kind.bytes.encode number value).length := by
  have inner := length_delimited_le value
  simp only [Kind.encode]
  split
  next empty => exact Nat.le_of_eq (congrArg List.length (List.isEmpty_iff.mp empty))
  next =>
    rw [List.length_append]
    omega

private theorem Wire.Kind.length_le_encode_message (name : String) {fields : Fields} (number : Nat)
    (value : fields.Value) :
    (fields.encode value).length ≤ ((Kind.message name fields).encode number (some value)).length := by
  have inner := length_delimited_le (fields.encodeFrom 1 value)
  simp only [Kind.encode, List.length_append, Fields.encode]
  omega

private theorem Wire.Kind.length_le_encode_messages (name : String) {fields : Fields} (number : Nat)
    {value : fields.Value} {values : List fields.Value} (member : value ∈ values) :
    (fields.encode value).length ≤ ((Kind.messages name fields).encode number values).length := by
  have inner := length_delimited_le (fields.encodeFrom 1 value)
  obtain ⟨before, after, rfl⟩ := List.append_of_mem member
  simp only [Kind.encode, List.flatMap_append, List.flatMap_cons, List.length_append, Fields.encode]
  omega

theorem Wire.Packed.length_value_le (packed : Packed) (number : Nat) :
    packed.value.length ≤ (Packed.kind.encode number (some packed.toValue)).length := by
  have value := Kind.length_le_encode_bytes 2 packed.value
  have message := Kind.length_le_encode_message "Any" number packed.toValue
  refine Nat.le_trans ?_ message
  simp only [Fields.encode, fields, Fields.ofList, Fields.encodeFrom, toValue, List.length_append,
    Nat.reduceAdd]
  omega

private theorem RequestItem.length_payload_le {item : RequestItem} {packed : Packed}
    (carried : item.spec = some packed ∨ item.last = some packed ∨ item.mask = some packed) :
    packed.value.length ≤ (RequestItem.fields.encode item.toValue).length := by
  have spec := packed.length_value_le 2
  have last := packed.length_value_le 3
  have mask := packed.length_value_le 4
  rcases carried with carried | carried | carried
  all_goals
    simp only [Fields.encode, fields, Fields.ofList, Fields.encodeFrom, toValue, List.length_append,
      Nat.reduceAdd, carried, Option.map_some]
    omega

private theorem RequestAction.length_conf_le {action : RequestAction} {packed : Packed}
    (carried : action.conf = some packed) :
    packed.value.length ≤ (RequestAction.fields.encode action.toValue).length := by
  have inner := packed.length_value_le 2
  simp only [Fields.encode, fields, Fields.ofList, Fields.encodeFrom, toValue, List.length_append,
    Nat.reduceAdd, carried, Option.map_some]
  omega

private theorem CreateRequest.length_item_le {request : CreateRequest} {item : RequestItem}
    (member : item ∈ request.pattern) :
    (RequestItem.fields.encode item.toValue).length ≤ request.encode.length := by
  have inner := Kind.length_le_encode_messages "RteFlowItem" 3 (List.mem_map_of_mem (f := RequestItem.toValue) member)
  simp only [encode, Message.encode, Fields.encode, message, Fields.ofList, Fields.encodeFrom, toValue,
    List.length_append, Nat.reduceAdd] at inner ⊢
  omega

private theorem CreateRequest.length_action_le {request : CreateRequest} {action : RequestAction}
    (member : action ∈ request.action) :
    (RequestAction.fields.encode action.toValue).length ≤ request.encode.length := by
  have inner := Kind.length_le_encode_messages "RteFlowAction" 4 (List.mem_map_of_mem (f := RequestAction.toValue) member)
  simp only [encode, Message.encode, Fields.encode, message, Fields.ofList, Fields.encodeFrom, toValue,
    List.length_append, Nat.reduceAdd] at inner ⊢
  omega

end Sizes

section Payloads

theorem ItemPayload.pack_inj {left right : ItemPayload} (small : left.pack.value.length < lengthLimit)
    (same : left.pack = right.pack) : left = right := by
  obtain ⟨names, contents⟩ := Packed.of_inj same
  obtain ⟨shape, left⟩ := left
  obtain ⟨rightShape, right⟩ := right
  have shapes : shape = rightShape := ItemShape.messageName_inj names
  subst shapes
  exact congrArg (ItemPayload.mk shape) ((RuleMessage.item shape).encode_inj small contents)

/-- Free-form configurations may nest deeper than can be read, but are told apart all the same. -/
theorem ConfLayout.encode_inj {layout : ConfLayout}
    (carries : ∀ message, layout = .declared message → RuleMessage message) {left right : layout.Value}
    (small : (layout.encode left).length < lengthLimit) (same : layout.encode left = layout.encode right) :
    left = right := by
  cases layout with
  | declared message => exact (carries message rfl).encode_inj small same
  | freeForm => exact Tree.encodeStruct_inj same

theorem ActionConf.pack_inj {left right : ActionConf} (small : left.pack.value.length < lengthLimit)
    (same : left.pack = right.pack) : left = right := by
  obtain ⟨names, contents⟩ := Packed.of_inj same
  obtain ⟨shape, left⟩ := left
  obtain ⟨rightShape, right⟩ := right
  have shapes : shape = rightShape := ActionShape.messageName_inj names
  subst shapes
  have carries := fun message => @RuleMessage.action shape message
  exact congrArg (ActionConf.mk shape) (ConfLayout.encode_inj carries small contents)

theorem map_pack_inj {α : Type} {pack : α → Packed} {left right : Option α}
    (inj : ∀ value other, left = some value → pack value = pack other → value = other)
    (same : left.map pack = right.map pack) : left = right := by
  cases left with
  | none =>
    cases right with
    | none => rfl
    | some other => cases same
  | some value =>
    cases right with
    | none => cases same
    | some other => rw [inj value other rfl (Option.some.inj same)]

end Payloads

/-- The items agree but for how far they were validated. -/
structure ValidatedItem.Same (left right : ValidatedItem) : Prop where
  type : left.type = right.type
  spec : left.spec = right.spec
  last : left.last = right.last
  mask : left.mask = right.mask

/-- The actions agree but for how far they were validated. -/
structure ValidatedAction.Same (left right : ValidatedAction) : Prop where
  type : left.type = right.type
  conf : left.conf = right.conf

/-- The rules agree but for how far their elements were validated. -/
structure ValidatedRule.Same (left right : ValidatedRule) : Prop where
  portId : left.portId = right.portId
  attr : left.attr = right.attr
  pattern : List.Forall₂ ValidatedItem.Same left.pattern right.pattern
  action : List.Forall₂ ValidatedAction.Same left.action right.action

/-- Different messages with the same hash. -/
def Digest.Collision (left right : Bytes) : Prop := left ≠ right ∧ sha256 left = sha256 right

section Elements

theorem ValidatedItem.same_of_toRequest {left right : ValidatedItem}
    (small : (RequestItem.fields.encode left.toRequest.toValue).length < lengthLimit)
    (same : left.toRequest = right.toRequest) : left.Same right := by
  obtain ⟨type, spec, last, mask⟩ := RequestItem.mk.inj same
  have payload {field : Option ItemPayload} (carried : left.toRequest.spec = field.map ItemPayload.pack ∨
      left.toRequest.last = field.map ItemPayload.pack ∨ left.toRequest.mask = field.map ItemPayload.pack)
      (value other : ItemPayload) (present : field = some value) (packed : value.pack = other.pack) :
      value = other := by
    subst present
    have bound := RequestItem.length_payload_le carried
    exact ItemPayload.pack_inj (Nat.lt_of_le_of_lt bound small) packed
  exact ⟨ItemType.number_inj type, map_pack_inj (payload (Or.inl rfl)) spec,
    map_pack_inj (payload (Or.inr (Or.inl rfl))) last, map_pack_inj (payload (Or.inr (Or.inr rfl))) mask⟩

theorem ValidatedAction.same_of_toRequest {left right : ValidatedAction}
    (small : (RequestAction.fields.encode left.toRequest.toValue).length < lengthLimit)
    (same : left.toRequest = right.toRequest) : left.Same right := by
  obtain ⟨type, conf⟩ := RequestAction.mk.inj same
  refine ⟨ActionType.number_inj type, map_pack_inj ?_ conf⟩
  intro value other present packed
  have carried : left.toRequest.conf = some value.pack := congrArg (Option.map _) present
  have bound := RequestAction.length_conf_le carried
  exact ActionConf.pack_inj (Nat.lt_of_le_of_lt bound small) packed

private theorem forall₂_of_map_eq {α β : Type} {f : α → β} {relation : α → α → Prop} {left right : List α}
    (inj : ∀ element ∈ left, ∀ other, f element = f other → relation element other)
    (same : left.map f = right.map f) : List.Forall₂ relation left right := by
  induction left generalizing right with
  | nil =>
    cases List.map_eq_nil_iff.mp same.symm
    exact .nil
  | cons element rest ih =>
    obtain ⟨other, others, rfl, first, more⟩ := List.map_eq_cons_iff.mp same.symm
    refine .cons (inj element List.mem_cons_self other first.symm) (ih ?_ more.symm)
    exact fun later member => inj later (List.mem_cons_of_mem _ member)

private theorem map_eq_of_forall₂ {α β : Type} {f : α → β} {relation : α → α → Prop} {left right : List α}
    (agree : ∀ element other, relation element other → f element = f other)
    (related : List.Forall₂ relation left right) : left.map f = right.map f := by
  induction related with
  | nil => rfl
  | cons first _ ih => rw [List.map_cons, List.map_cons, agree _ _ first, ih]

end Elements

theorem ValidatedRule.same_of_toRequest {left right : ValidatedRule}
    (small : left.toRequest.encode.length < lengthLimit) (same : left.toRequest = right.toRequest) :
    left.Same right := by
  obtain ⟨portId, attr, pattern, action⟩ := CreateRequest.mk.inj same
  refine ⟨portId, Option.some.inj attr, forall₂_of_map_eq ?_ pattern, forall₂_of_map_eq ?_ action⟩
  · intro item member other requests
    have inside : item.toRequest ∈ left.toRequest.pattern := List.mem_map_of_mem member
    have bound := CreateRequest.length_item_le inside
    exact ValidatedItem.same_of_toRequest (Nat.lt_of_le_of_lt bound small) requests
  · intro action member other requests
    have inside : action.toRequest ∈ left.toRequest.action := List.mem_map_of_mem member
    have bound := CreateRequest.length_action_le inside
    exact ValidatedAction.same_of_toRequest (Nat.lt_of_le_of_lt bound small) requests

private theorem ValidatedRule.Same.toRequest_eq {left right : ValidatedRule} (same : left.Same right) :
    left.toRequest = right.toRequest := by
  have pattern : left.pattern.map ValidatedItem.toRequest = right.pattern.map ValidatedItem.toRequest := by
    refine map_eq_of_forall₂ ?_ same.pattern
    intro item other agree
    simp only [ValidatedItem.toRequest, agree.type, agree.spec, agree.last, agree.mask]
  have action : left.action.map ValidatedAction.toRequest = right.action.map ValidatedAction.toRequest := by
    refine map_eq_of_forall₂ ?_ same.action
    intro action other agree
    simp only [ValidatedAction.toRequest, agree.type, agree.conf]
  simp only [ValidatedRule.toRequest, same.portId, same.attr, pattern, action]

/-- Rules have the same binary form exactly if they agree in everything but how far they were
validated. So, unless two forms have the same hash, a fingerprint names one rule. -/
theorem request_encoding_tells_rules {left right : ValidatedRule}
    (small : left.toRequest.encode.length < lengthLimit) :
    (left.toRequest.encode = right.toRequest.encode ↔ left.Same right) ∧
    (left.Same right → Fingerprint.ofRequest left.toRequest = .ofRequest right.toRequest) ∧
    (Fingerprint.ofRequest left.toRequest = .ofRequest right.toRequest →
      left.Same right ∨ Digest.Collision left.toRequest.encode right.toRequest.encode) := by
  have encoding : left.toRequest.encode = right.toRequest.encode ↔ left.Same right := by
    constructor
    · intro forms
      exact ValidatedRule.same_of_toRequest small (CreateRequest.encode_inj small forms)
    · intro same
      rw [same.toRequest_eq]
  refine ⟨encoding, ?_, ?_⟩
  · intro same
    rw [same.toRequest_eq]
  · intro fingerprints
    by_cases forms : left.toRequest.encode = right.toRequest.encode
    · exact Or.inl (encoding.mp forms)
    · exact Or.inr ⟨forms, Fingerprint.mk.inj fingerprints⟩

/-- A rule that matches frames by their destination. -/
def destinationRule (dst : Option etherAddress.Value) : ValidatedRule :=
  ⟨0, .default, [⟨.eth, some ⟨.eth, (dst, none, (0 : UInt32), ())⟩, none, none, .accepted⟩], []⟩

/-- An address without bytes is not an absent one. -/
theorem request_encoding_tells_empty_address :
    (destinationRule (some (([] : Bytes), ()))).toRequest.encode.length < lengthLimit ∧
    (destinationRule (some (([] : Bytes), ()))).toRequest.encode ≠
      (destinationRule none).toRequest.encode := by
  have small : (destinationRule (some (([] : Bytes), ()))).toRequest.encode.length < lengthLimit := by
    decide +kernel
  refine ⟨small, fun forms => ?_⟩
  have same := (request_encoding_tells_rules small).1.mp forms
  cases same.pattern with
  | cons first _ => cases first.spec

end NicFlow
