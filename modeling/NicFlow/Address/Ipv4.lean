import NicFlow.Text.Split

/-! Internet addresses of 32 bits, written as four decimal octets without leading zeros. -/

namespace NicFlow.Ipv4

/-- An octet of one to three digits. -/
def octet? (digits : List Char) : Option Nat := do
  let value ← Text.ofDecimal? digits
  if digits.length ≤ 3 ∧ value ≤ 255 ∧ (digits.head? ≠ some '0' ∨ digits.length = 1) then
    some value
  else none

/-- The address as a number, the first octet the highest. -/
def parse? (text : String) : Option UInt32 := do
  match ← (Text.splitAll '.' text.toList).mapM octet? with
  | [first, second, third, fourth] =>
    some (UInt32.ofNat (((first * 256 + second) * 256 + third) * 256 + fourth))
  | _ => none

def octets (address : UInt32) : List Nat :=
  [address.toNat / 0x1000000, address.toNat / 0x10000 % 256, address.toNat / 0x100 % 256,
   address.toNat % 256]

def render (address : UInt32) : String :=
  ".".intercalate ((octets address).map fun octet => toString octet)

/-- The number of an address, zero if the text is none. -/
def ofText (text : String) : UInt32 := (parse? text).getD 0

end NicFlow.Ipv4
