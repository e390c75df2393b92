import NicFlow.Proofs.StrictShapes

/-! Ranges of strict payloads. That one payload begins a range which another ends is a partial order, value
by value. Values that are left open do not break it: where a range may end with zero, zero is the greatest
number instead of the least. -/

namespace NicFlow

open FieldRule Log Traced

namespace Role

private theorem allows_last_iff {first last : Nat} :
    Role.last.Allows first last ↔ (first = 0 → last = 0) ∧ first ≤ last := by
  simp only [Allows, forall_const]

end Role

namespace CrossCheck

/-- A range of one value may begin with the one number and end with the other. -/
def Spans (cross : CrossCheck) (first last : Nat) : Prop := cross.Applies first last → Role.last.Allows first last

private theorem spans_iff {cross : CrossCheck} {first last : Nat} : cross.Spans first last ↔
    match cross with
    | .always => (first = 0 → last = 0) ∧ first ≤ last
    | .whenSet => last = 0 ∨ first ≠ 0 ∧ first ≤ last
    | .whenSpecSet => first ≤ last := by
  unfold Spans
  rw [Role.allows_last_iff]
  cases cross with
  | always => exact true_imp_iff
  | whenSet =>
    unfold Applies
    omega
  | whenSpecSet =>
    unfold Applies
    omega

theorem Spans.trans {cross : CrossCheck} {first middle last : Nat} (below : cross.Spans first middle)
    (above : cross.Spans middle last) : cross.Spans first last := by
  rw [spans_iff] at below above ⊢
  cases cross with
  | always => exact ⟨fun absent => above.1 (below.1 absent), Nat.le_trans below.2 above.2⟩
  | whenSet =>
    rcases above with spared | ⟨set, above⟩
    · exact Or.inl spared
    · rcases below with absent | ⟨given, below⟩
      · exact absurd absent set
      · exact Or.inr ⟨given, Nat.le_trans below above⟩
  | whenSpecSet => exact Nat.le_trans below above

end CrossCheck

namespace ItemShape

variable {shape : ItemShape} {addressed : Option Wire.Bytes → Nat} {part : Part}

section Values

variable {first middle last : shape.Value}

theorem keeps_last_iff :
    shape.Keeps addressed first last .last part ↔
      shape.Formed first last part ∧ shape.Bounded last part ∧
      (shape.crossCheck part).Spans (shape.numberAt addressed first part)
        (shape.numberAt addressed last part) := by
  constructor
  · intro keeps
    exact ⟨keeps.formed, keeps.bounded, fun applies => keeps.allowed ⟨nofun, applies⟩⟩
  · intro ⟨formed, bounded, spans⟩
    exact ⟨formed, fun compares => spans compares.2, bounded⟩

private theorem formed_trans (below : shape.Formed first middle part) (above : shape.Formed middle last part) :
    shape.Formed first last part := by
  cases part with
  | number path => trivial
  | address field => exact above
  | octets field => exact ⟨below.1, above.2⟩

theorem Keeps.trans (below : shape.Keeps addressed first middle .last part)
    (above : shape.Keeps addressed middle last .last part) : shape.Keeps addressed first last .last part := by
  rw [keeps_last_iff] at below above ⊢
  obtain ⟨formed, _, spans⟩ := below
  obtain ⟨formedAbove, bounded, spansAbove⟩ := above
  exact ⟨formed_trans formed formedAbove, bounded, spans.trans spansAbove⟩

end Values

theorem check_ok_iff (strict : shape ∈ strictShapes) {spec candidate : shape.Value} {role : Role} :
    shape.check spec candidate role = .ok () ↔ shape.Accepts addressNumber spec candidate role := by
  rw [check_eq strict, forM_eq_ok_iff]
  simp only [check_ruleOf_ok_iff, Accepts]

end ItemShape

end NicFlow
