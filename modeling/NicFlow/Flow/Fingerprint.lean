import NicFlow.Flow.Digest
import NicFlow.Flow.Request

/-! Fingerprints name flows by what they do: the hash of the encoded request. -/

namespace NicFlow

/-- The thirty-two bytes of a hash, compared byte by byte. -/
structure Fingerprint where
  octets : List UInt8
deriving DecidableEq, Repr

namespace Fingerprint

instance : LT Fingerprint := ⟨fun left right => left.octets < right.octets⟩

instance : DecidableLT Fingerprint := fun left right =>
  inferInstanceAs (Decidable (left.octets < right.octets))

instance : Trans (· < · : Fingerprint → Fingerprint → Prop) (· < ·) (· < ·) where
  trans := List.lt_trans (α := UInt8)

instance : Std.Irrefl (· < · : Fingerprint → Fingerprint → Prop) where
  irrefl fingerprint := List.lt_irrefl fingerprint.octets

instance : Std.Trichotomous (· < · : Fingerprint → Fingerprint → Prop) where
  trichotomous left right notLess notGreater := by
    have same : left.octets = right.octets :=
      (inferInstance : Std.Trichotomous (· < · : List UInt8 → List UInt8 → Prop)).trichotomous _ _
        notLess notGreater
    cases left
    cases right
    exact congrArg mk same

def render (fingerprint : Fingerprint) : String := Text.hexBytes fingerprint.octets

instance : ToString Fingerprint := ⟨render⟩

def ofRequest (request : CreateRequest) : Fingerprint := ⟨Digest.sha256 request.encode⟩

end Fingerprint

end NicFlow
