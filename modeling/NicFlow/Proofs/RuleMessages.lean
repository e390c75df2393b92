import NicFlow.Flow.Request
import NicFlow.Proofs.MessageRoundTrip

/-! The messages of rules nest a few levels only, and have a few dozen fields at most. So all of them
come back from their binary form. -/

namespace NicFlow

open Wire

/-- The messages that carry rules to the flow service, those that only occur inside of others
included. A free-form configuration has no declared message. -/
inductive RuleMessage : Message → Prop where
  | item (shape : ItemShape) : RuleMessage shape.message
  | action (shape : ActionShape) {message : Message} (declared : shape.layout = .declared message) :
      RuleMessage message
  | attributes : RuleMessage Attributes.message
  | packed : RuleMessage ⟨"Any", Packed.fields⟩
  | requestItem : RuleMessage ⟨"RteFlowItem", RequestItem.fields⟩
  | requestAction : RuleMessage ⟨"RteFlowAction", RequestAction.fields⟩
  | request : RuleMessage CreateRequest.message

theorem ItemShape.message_fits (shape : ItemShape) : shape.message.fields.fits 1 depthLimit = true := by
  cases shape <;> rfl

theorem ActionShape.message_fits (shape : ActionShape) {message : Message}
    (declared : shape.layout = .declared message) : message.fields.fits 1 depthLimit = true := by
  cases shape <;> cases declared <;> rfl

theorem RuleMessage.fits {message : Message} (carries : RuleMessage message) :
    message.fields.fits 1 depthLimit = true := by
  cases carries with
  | item shape => exact shape.message_fits
  | action shape declared => exact shape.message_fits declared
  | attributes | packed | requestItem | requestAction | request => rfl

theorem RuleMessage.decode_encode {message : Message} (carries : RuleMessage message)
    {value : message.Value} (small : (message.encode value).length < lengthLimit) :
    message.decode (message.encode value) = .ok value :=
  Fields.decode_encode carries.fits message.name small

theorem RuleMessage.encode_inj {message : Message} (carries : RuleMessage message)
    {left right : message.Value} (small : (message.encode left).length < lengthLimit)
    (same : message.encode left = message.encode right) : left = right := by
  have read := carries.decode_encode small
  rw [same] at small read
  rw [carries.decode_encode small] at read
  exact (Except.ok.inj read).symm

theorem Wire.Packed.ofValue_toValue (packed : Packed) : ofValue packed.toValue = packed := rfl

theorem Attributes.ofValue_toValue (attributes : Attributes) : ofValue attributes.toValue = attributes := rfl

private theorem Wire.Packed.map_ofValue_toValue (packed : Option Packed) :
    (packed.map toValue).map ofValue = packed := by
  cases packed <;> rfl

theorem RequestItem.ofValue_toValue (item : RequestItem) : ofValue item.toValue = item := by
  simp only [toValue, ofValue, Packed.map_ofValue_toValue]

theorem RequestAction.ofValue_toValue (action : RequestAction) : ofValue action.toValue = action := by
  simp only [toValue, ofValue, Packed.map_ofValue_toValue]

theorem CreateRequest.ofValue_toValue (request : CreateRequest) : ofValue request.toValue = request := by
  have attr : (request.attr.map Attributes.toValue).map Attributes.ofValue = request.attr := by
    cases request.attr <;> rfl
  have pattern : (request.pattern.map RequestItem.toValue).map RequestItem.ofValue = request.pattern := by
    rw [List.map_map]
    exact List.map_id'' RequestItem.ofValue_toValue _
  have action : (request.action.map RequestAction.toValue).map RequestAction.ofValue = request.action := by
    rw [List.map_map]
    exact List.map_id'' RequestAction.ofValue_toValue _
  simp only [toValue, ofValue, attr, pattern, action]

theorem CreateRequest.decode_encode {request : CreateRequest} (small : request.encode.length < lengthLimit) :
    decode request.encode = .ok request := by
  have read : message.decode request.encode = .ok request.toValue := RuleMessage.request.decode_encode small
  rw [decode, read]
  exact congrArg Except.ok request.ofValue_toValue

theorem CreateRequest.encode_inj {left right : CreateRequest} (small : left.encode.length < lengthLimit)
    (same : left.encode = right.encode) : left = right := by
  have read := decode_encode small
  rw [same] at small read
  rw [decode_encode small] at read
  exact (Except.ok.inj read).symm

/-- Whatever a message of a rule holds comes back from its binary form: numbers of all sizes and
signs, bytes, texts, lists, and messages that are absent, empty or full. -/
theorem rule_messages_round_trip :
    (∀ {message : Message}, RuleMessage message → ∀ value : message.Value,
      (message.encode value).length < lengthLimit →
      message.decode (message.encode value) = .ok value) ∧
    ∀ request : CreateRequest, request.encode.length < lengthLimit →
      CreateRequest.decode request.encode = .ok request :=
  ⟨fun carries _ small => carries.decode_encode small, fun _ small => CreateRequest.decode_encode small⟩

/-- A negative offset takes ten bytes, and empty messages are not absent ones. -/
theorem rule_messages_round_trip_raw :
    ((ItemShape.message .raw).decode ((ItemShape.message .raw).encode
        ((1 : UInt32), (0 : UInt32), (0 : UInt32), (-5 : Int32), (300 : UInt32), (0 : UInt32),
          ([0, 255] : Bytes), ())) =
      .ok ((1 : UInt32), (0 : UInt32), (0 : UInt32), (-5 : Int32), (300 : UInt32), (0 : UInt32),
        ([0, 255] : Bytes), ())) ∧
    (CreateRequest.decode (CreateRequest.encode ⟨7, some .default,
        [⟨9, some ⟨"", []⟩, none, some ⟨"Ä", [1, 0]⟩⟩], [⟨-1, none⟩, ⟨0, some ⟨"", [0]⟩⟩]⟩) =
      .ok ⟨7, some .default, [⟨9, some ⟨"", []⟩, none, some ⟨"Ä", [1, 0]⟩⟩],
        [⟨-1, none⟩, ⟨0, some ⟨"", [0]⟩⟩]⟩) :=
  ⟨rule_messages_round_trip.1 (.item .raw) _ (by decide +kernel),
    rule_messages_round_trip.2 _ (by decide +kernel)⟩

end NicFlow
