import NicFlow.Proofs.ActionAcceptance
import NicFlow.Proofs.DoubleRounding
import NicFlow.Proofs.RequestEncoding
import NicFlow.Proofs.RuleValidation

/-! Free-form configurations carry every number as a double. So two rules that differ in one integer of
such a configuration are told apart exactly if no double is nearest to both integers. -/

namespace NicFlow

open Wire Validation

namespace Double

/-- Some double is nearest to both integers. -/
def ShareNearest (left right : Int) : Prop := ∃ number, Nearest left number ∧ Nearest right number

end Double

namespace Json

/-- A value with one place left open. -/
inductive Context where
  | here
  | element (before : List Json) (inner : Context) (after : List Json)
  | field (before : List (String × Json)) (key : String) (inner : Context) (after : List (String × Json))

namespace Context

def fill : Context → Json → Json
  | .here, value => value
  | .element before inner after, value => .array (before ++ inner.fill value :: after)
  | .field before key inner after, value => .object (before ++ (key, inner.fill value) :: after)

def isObject : Context → Bool
  | .field .. => true
  | _ => false

end Context

def InRange (integer : Int) : Prop := -0x8000000000000000 ≤ integer ∧ integer < 0x10000000000000000

end Json

section Trees

namespace Wire.Tree

private theorem ofElements_append (before after : List Json) :
    ofElements (before ++ after) = ofElements before ++ ofElements after := by
  induction before with
  | nil => rfl
  | cons element rest ih => rw [List.cons_append, ofElements, ih, ofElements, List.cons_append]

private theorem ofFields_append (before after : List (String × Json)) :
    ofFields (before ++ after) = ofFields before ++ ofFields after := by
  induction before with
  | nil => rfl
  | cons field rest ih => rw [List.cons_append, ofFields, ih, ofFields, List.cons_append]

/-- Copies of a value that differs in one place are the same if and only if they are at that place. -/
theorem ofJson_fill_eq_iff (place : Json.Context) {left right : Json} :
    ofJson (place.fill left) = ofJson (place.fill right) ↔ ofJson left = ofJson right := by
  induction place with
  | here => exact Iff.rfl
  | element before inner after ih =>
    simp only [Json.Context.fill, ofJson, ofElements_append, ofElements, list.injEq,
      List.append_cancel_left_eq, List.cons.injEq, and_true, ih]
  | field before key inner after ih =>
    simp only [Json.Context.fill, ofJson, ofFields_append, ofFields, struct.injEq,
      List.append_cancel_left_eq, List.cons.injEq, Prod.mk.injEq, true_and, and_true, ih]

end Wire.Tree

private theorem ofJson_integer_eq_iff (place : Json.Context) {left right : Int} (bound : Json.InRange left) (otherBound : Json.InRange right) :
    Tree.ofJson (place.fill (.ofInt left)) = Tree.ofJson (place.fill (.ofInt right)) ↔
      Double.ShareNearest left right := by
  unfold Json.InRange at bound otherBound
  rw [Tree.ofJson_fill_eq_iff, Json.ofInt, Json.ofInt, Tree.ofJson, Tree.ofJson, Tree.number.injEq]
  exact Double.ofInt_eq_iff (by omega) (by omega)

end Trees

section Requests

private theorem Wire.Kind.encode_bytes_inj {number : Nat} {left right : Bytes}
    (same : Kind.bytes.encode number left = Kind.bytes.encode number right) : left = right := by
  simp only [Kind.encode] at same
  split at same <;> split at same
  next leftEmpty rightEmpty => rw [List.isEmpty_iff.mp leftEmpty, List.isEmpty_iff.mp rightEmpty]
  next => exact absurd same.symm Tree.key_ne_nil
  next => exact absurd same Tree.key_ne_nil
  next => exact delimited_inj (key_append_inj same).2

theorem RequestAction.encode_inj {type : Int32} {typeUrl : String} {left right : Bytes}
    (same : fields.encode (toValue ⟨type, some ⟨typeUrl, left⟩⟩) =
      fields.encode (toValue ⟨type, some ⟨typeUrl, right⟩⟩)) : left = right := by
  simp only [Fields.encode, fields, Fields.ofList, Fields.encodeFrom, toValue, Option.map_some,
    List.append_nil, List.append_cancel_left_eq, Packed.kind] at same
  simp only [Kind.encode, List.append_cancel_left_eq] at same
  have packed := delimited_inj same
  simp only [Packed.fields, Packed.toValue, Fields.ofList, Fields.encodeFrom, List.append_nil,
    List.append_cancel_left_eq] at packed
  exact Kind.encode_bytes_inj packed

private theorem CreateRequest.encode_inj_of_action {portId : UInt32} {attr : Option Attributes} {pattern : List RequestItem}
    {before after : List RequestAction} {left right : RequestAction}
    (same : encode ⟨portId, attr, pattern, before ++ left :: after⟩ =
      encode ⟨portId, attr, pattern, before ++ right :: after⟩) :
    RequestAction.fields.encode left.toValue = RequestAction.fields.encode right.toValue := by
  simp only [encode, Message.encode, Fields.encode, message, Fields.ofList, Fields.encodeFrom, toValue,
    List.append_nil, List.append_cancel_left_eq, List.map_append, List.map_cons] at same
  simp only [Kind.encode, List.flatMap_append, List.flatMap_cons, List.append_cancel_left_eq,
    List.append_cancel_right_eq] at same
  exact delimited_inj same

end Requests

section Rules

variable {type : ActionType} {fields otherFields : List (String × Json)}

private theorem shape?_eq_freeForm_iff :
    type.shape? = some .freeForm ↔
      type = .vxlanEncap ∨ type = .nvgreEncap ∨ type = .sample ∨ type = .shared := by
  cases type <;> decide

/-- The rule with the given actions, one of which takes a configuration. -/
def FlowRule.withConf (rule : FlowRule) (before : List RuleAction) (type : ActionType) (conf : Json)
    (after : List RuleAction) : FlowRule :=
  { rule with action := before ++ ⟨type.name, some conf⟩ :: after }

def freeFormAction (type : ActionType) (fields : List (String × Json)) : ValidatedAction :=
  ⟨type, some ⟨.freeForm, Tree.ofFields fields⟩, .acceptedUnvalidated⟩

private theorem acceptsAction_freeForm_iff (free : type.shape? = some .freeForm) {validated : ValidatedAction} :
    AcceptsAction ⟨type.name, some (.object fields)⟩ validated ↔ validated = freeFormAction type fields := by
  constructor
  · intro accepts
    cases accepts with
    | bare _ bare _ => cases bare
    | configured known given shaped decoded _ =>
      cases ActionType.name_inj (ActionType.ofName?_eq_some_iff.mp known)
      cases given
      cases free.symm.trans shaped
      cases decoded
      rfl
  · rintro rfl
    exact .configured (ActionType.ofName?_eq_some_iff.mpr rfl) rfl free rfl rfl

private theorem forall₂_middle_iff {α β : Type} {related : α → β → Prop} {before after : List α} {element : α}
    {values : List β} :
    List.Forall₂ related (before ++ element :: after) values ↔
      ∃ first value last, values = first ++ value :: last ∧ List.Forall₂ related before first ∧
        related element value ∧ List.Forall₂ related after last := by
  constructor
  · intro all
    refine ⟨values.take before.length, ?_⟩
    have first := List.forall₂_take before.length all
    have rest := List.forall₂_drop before.length all
    rw [List.take_left] at first
    rw [List.drop_left] at rest
    obtain ⟨value, last, here, later, same⟩ := List.forall₂_cons_left_iff.mp rest
    refine ⟨value, last, ?_, first, here, later⟩
    rw [← same, List.take_append_drop]
  · rintro ⟨first, value, last, rfl, front, here, back⟩
    exact List.rel_append front (.cons here back)

private theorem checkActionsEnd_congr {before after : List ValidatedAction} {left right : ValidatedAction}
    (same : left.type = right.type) :
    checkActionsEnd (before ++ left :: after) = checkActionsEnd (before ++ right :: after) := by
  simp only [checkActionsEnd, List.getLast?_append_of_ne_nil before (List.cons_ne_nil _ after)]
  cases after with
  | nil => simp only [List.getLast?_singleton, same]
  | cons next rest => simp only [List.getLast?_cons_cons]

private theorem exchange_conf (free : type.shape? = some .freeForm) {scope : Scope} {rule : FlowRule}
    {before after : List RuleAction} {validated : ValidatedRule}
    (accepted : (validateRule scope (rule.withConf before type (.object fields) after)).result = .ok validated) :
    ∃ first last, validated.action = first ++ freeFormAction type fields :: last ∧
      (validateRule scope (rule.withConf before type (.object otherFields) after)).result =
        .ok { validated with action := first ++ freeFormAction type otherFields :: last } := by
  obtain ⟨⟨portId, attr, items, actions⟩, patternEnds, acts, actionsEnd, flags⟩ := validateRule_ok_iff.mp accepted
  obtain ⟨first, action, last, split, front, here, back⟩ := forall₂_middle_iff.mp actions
  cases (acceptsAction_freeForm_iff free).mp here
  have others : AcceptsAction ⟨type.name, some (.object otherFields)⟩ (freeFormAction type otherFields) :=
    (acceptsAction_freeForm_iff free).mpr rfl
  have otherActions := forall₂_middle_iff.mpr ⟨first, _, last, rfl, front, others, back⟩
  have ends : checkActionsEnd (first ++ freeFormAction type otherFields :: last) = .ok () := by
    rw [← actionsEnd, split]
    exact checkActionsEnd_congr rfl
  refine ⟨first, last, split, validateRule_ok_iff.mpr ?_⟩
  exact ⟨⟨portId, attr, items, otherActions⟩, patternEnds,
    fun _ => List.append_ne_nil_of_right_ne_nil before (List.cons_ne_nil _ after), ends, flags⟩

private theorem pack_freeForm_eq_iff {left right : Struct} :
    ActionConf.pack ⟨.freeForm, left⟩ = ActionConf.pack ⟨.freeForm, right⟩ ↔ left = right := by
  constructor
  · intro same
    exact Tree.encodeStruct_inj (Packed.of_inj same).2
  · intro same
    rw [same]

private theorem exchanged_inj {validated : ValidatedRule} {first last : List ValidatedAction}
    (same : (ValidatedRule.toRequest { validated with action := first ++ freeFormAction type fields :: last }).encode =
      (ValidatedRule.toRequest { validated with action := first ++ freeFormAction type otherFields :: last }).encode) :
    Tree.ofFields fields = Tree.ofFields otherFields := by
  simp only [ValidatedRule.toRequest, List.map_append, List.map_cons] at same
  have actions := CreateRequest.encode_inj_of_action same
  exact Tree.encodeStruct_inj (RequestAction.encode_inj actions)

end Rules

private theorem Json.Context.exists_fields {place : Json.Context} (object : place.isObject) (value : Json) :
    ∃ fields, place.fill value = .object fields := by
  cases place with
  | field before key inner after => exact ⟨_, rfl⟩
  | _ => cases object

/-- Free-form configurations that differ in one integer are packed apart, and their rules encoded
apart, if and only if no double is nearest to both integers. Up to `2 ^ 53` integers share none. -/
theorem free_form_integers_exact {type : ActionType} (free : type.shape? = some .freeForm)
    (place : Json.Context) (object : place.isObject) {integer other : Int} (bound : Json.InRange integer)
    (otherBound : Json.InRange other) :
    (∃ conf otherConf, ActionConf.decode .freeForm (place.fill (.ofInt integer)) = .ok conf ∧
      ActionConf.decode .freeForm (place.fill (.ofInt other)) = .ok otherConf ∧
      (conf.pack = otherConf.pack ↔ Double.ShareNearest integer other)) ∧
    (∀ scope (rule : FlowRule) before after validated,
      (validateRule scope (rule.withConf before type (place.fill (.ofInt integer)) after)).result = .ok validated →
      ∃ otherValidated,
        (validateRule scope (rule.withConf before type (place.fill (.ofInt other)) after)).result =
          .ok otherValidated ∧
        (validated.toRequest = otherValidated.toRequest ↔ Double.ShareNearest integer other) ∧
        (validated.toRequest.encode = otherValidated.toRequest.encode ↔ Double.ShareNearest integer other)) ∧
    (integer.natAbs ≤ 2 ^ 53 → other.natAbs ≤ 2 ^ 53 → Double.ShareNearest integer other → integer = other) := by
  have trees := ofJson_integer_eq_iff place bound otherBound
  obtain ⟨fields, left⟩ := Json.Context.exists_fields object (.ofInt integer)
  obtain ⟨otherFields, right⟩ := Json.Context.exists_fields object (.ofInt other)
  rw [left, right, Tree.ofJson, Tree.ofJson, Tree.struct.injEq] at trees
  rw [left, right]
  refine ⟨⟨_, _, rfl, rfl, pack_freeForm_eq_iff.trans trees⟩, ?_, ?_⟩
  · intro scope rule before after validated accepted
    obtain ⟨first, last, split, others⟩ := exchange_conf free accepted
    have same : validated = { validated with action := first ++ freeFormAction type fields :: last } := by
      rw [← split]
    have apart (encoded : validated.toRequest.encode = (ValidatedRule.toRequest
        { validated with action := first ++ freeFormAction type otherFields :: last }).encode) :
        Double.ShareNearest integer other := by
      rw [same] at encoded
      exact trees.mp (exchanged_inj encoded)
    have together (share : Double.ShareNearest integer other) : validated.toRequest =
        ValidatedRule.toRequest { validated with action := first ++ freeFormAction type otherFields :: last } := by
      rw [same, freeFormAction, trees.mpr share, freeFormAction]
    refine ⟨_, others, ⟨fun requests => apart ?_, together⟩, apart, fun share => ?_⟩
    · rw [requests]
    · rw [together share]
  · intro small otherSmall share
    exact Double.ofInt_inj_of_le small otherSmall ((Double.ofInt_eq_iff (by omega) (by omega)).mpr share)

def samplingRule (integer : Int) : FlowRule :=
  FlowRule.withConf ⟨0, [], [], none⟩ [] .sample (.object [("ratio", .array [.ofInt integer])])
    [⟨ActionType.terminator.name, none⟩]

/-- The largest odd integer that a significand holds is told from the next one. -/
theorem free_form_integers_exact_largest :
    ∃ validated otherValidated,
      (validateRule .node (samplingRule 9007199254740991)).result = .ok validated ∧
      (validateRule .node (samplingRule 9007199254740992)).result = .ok otherValidated ∧
      validated.toRequest.encode ≠ otherValidated.toRequest.encode := by
  have bound : Json.InRange 9007199254740991 ∧ Json.InRange 9007199254740992 := by
    unfold Json.InRange
    omega
  obtain ⟨_, rules, apart⟩ :=
    free_form_integers_exact (shape?_eq_freeForm_iff.mpr (Or.inr (Or.inr (Or.inl rfl))))
      (.field [] "ratio" (.element [] .here []) []) rfl bound.1 bound.2
  have accepted : (validateRule .node (samplingRule 9007199254740991)).result = .ok
      ⟨0, .default, [], [freeFormAction .sample [("ratio", .array [.ofInt 9007199254740991])],
        ⟨.terminator, none, .accepted⟩]⟩ := rfl
  obtain ⟨otherValidated, otherAccepted, _, encoded⟩ := rules _ _ _ _ _ accepted
  refine ⟨_, otherValidated, accepted, otherAccepted, fun same => ?_⟩
  exact absurd (apart (by decide) (by decide) (encoded.mp same)) (by decide)

/-- Not all integers are told apart: the first one beyond the significand is rounded. -/
theorem free_form_integers_collide :
    ¬∀ (place : Json.Context) (integer other : Int) (conf otherConf : ActionConf), place.isObject →
      Json.InRange integer → Json.InRange other → integer ≠ other →
      ActionConf.decode .freeForm (place.fill (.ofInt integer)) = .ok conf →
      ActionConf.decode .freeForm (place.fill (.ofInt other)) = .ok otherConf →
      conf.pack ≠ otherConf.pack := by
  intro apart
  have same : Double.ofInt 9007199254740992 = Double.ofInt 9007199254740993 := by decide +kernel
  have bound : Json.InRange 9007199254740992 ∧ Json.InRange 9007199254740993 := by
    unfold Json.InRange
    omega
  refine apart (.field [] "ratio" .here []) 9007199254740992 9007199254740993 _ _ rfl bound.1 bound.2
    (by decide) rfl rfl ?_
  exact congrArg (fun number => ActionConf.pack ⟨.freeForm, [("ratio", .number number)]⟩) same

end NicFlow
