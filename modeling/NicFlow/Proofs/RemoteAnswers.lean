import NicFlow.Proofs.TracedResults
import NicFlow.Service.Remote

/-! Acknowledgements over a connection. A call that changes flows is acknowledged by a
message that decodes and carries no error, or one of kind zero. -/

namespace NicFlow.Remote

open Wire Log.Traced

/-- A response reports no error: its error field is absent or of kind zero. -/
def NoError (error : Option errorFields.Value) : Prop :=
  ∀ (kind : UInt32) (text : String), error = some (kind, text, ()) → kind = 0

theorem checkError_ok_iff {error : Option errorFields.Value} :
    checkError error = .ok () ↔ NoError error := by
  unfold checkError NoError
  split
  next kind text _ =>
    constructor
    · intro accepted other _ same
      cases same
      exact Decidable.byContradiction fun nonzero => by simp [nonzero] at accepted
    · intro none
      simp [none kind text rfl]
  next => simp

theorem decodeMessage_ok_iff {message : Message} {bytes : Bytes} {value : message.Value} :
    decodeMessage message bytes = .ok value ↔ message.decode bytes = .ok value :=
  mapError_eq_ok_iff

theorem answerOf_create_ok_iff {request : CreateRequest} {response : Response} {flowId : UInt32} :
    answerOf (.create request) response = .ok flowId ↔ ∃ bytes error, response = .message bytes ∧
      createdMessage.decode bytes = .ok (error, flowId, ()) ∧ NoError error := by
  constructor
  · intro accepted
    cases response with
    | status code text => cases accepted
    | unreachable reason => cases accepted
    | message bytes =>
      obtain ⟨⟨error, id, _⟩, decoded, accepted⟩ := bind_eq_ok_iff.mp accepted
      obtain ⟨_, checked, same⟩ := bind_eq_ok_iff.mp accepted
      cases same
      exact ⟨bytes, error, rfl, decodeMessage_ok_iff.mp decoded, checkError_ok_iff.mp checked⟩
  · rintro ⟨bytes, error, rfl, decoded, none⟩
    exact bind_eq_ok_iff.mpr ⟨_, decodeMessage_ok_iff.mpr decoded,
      bind_eq_ok_iff.mpr ⟨(), checkError_ok_iff.mpr none, rfl⟩⟩

theorem answerOf_destroy_ok_iff {portId flowId : UInt32} {response : Response} :
    answerOf (.destroy portId flowId) response = .ok () ↔ ∃ bytes error, response = .message bytes ∧
      emptyMessage.decode bytes = .ok (error, ()) ∧ NoError error := by
  constructor
  · intro accepted
    cases response with
    | status code text => cases accepted
    | unreachable reason => cases accepted
    | message bytes =>
      obtain ⟨⟨error, _⟩, decoded, checked⟩ := bind_eq_ok_iff.mp accepted
      exact ⟨bytes, error, rfl, decodeMessage_ok_iff.mp decoded, checkError_ok_iff.mp checked⟩
  · rintro ⟨bytes, error, rfl, decoded, none⟩
    exact bind_eq_ok_iff.mpr ⟨_, decodeMessage_ok_iff.mpr decoded, checkError_ok_iff.mpr none⟩

end NicFlow.Remote
