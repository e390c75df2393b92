import NicFlow.Text.Split

/-! Hardware addresses of six octets, written as colon separated pairs of hexadecimal digits. -/

namespace NicFlow

structure Mac where
  octets : List UInt8
  length_octets : octets.length = 6
deriving DecidableEq, Repr

namespace Mac

def ofOctets? (octets : List UInt8) : Option Mac :=
  if length_octets : octets.length = 6 then some ⟨octets, length_octets⟩ else none

/-- The octet of exactly two digits. -/
def octet? (digits : List Char) : Option UInt8 :=
  if digits.length = 2 then (Text.ofHex? digits).map UInt8.ofNat else none

def parse? (text : String) : Option Mac := do
  let octets ← (Text.splitAll ':' text.toList).mapM octet?
  ofOctets? octets

/-- The octets as one number, the first octet the highest. -/
def number (mac : Mac) : Nat := mac.octets.foldl (fun value octet => value * 256 + octet.toNat) 0

def render (mac : Mac) : String :=
  ":".intercalate (mac.octets.map fun octet => String.ofList (Text.hexDigits 2 octet.toNat))

def invalidMessage (text : String) : String :=
  s!"invalid string representation of mac address: '{text}'"

end Mac

end NicFlow
