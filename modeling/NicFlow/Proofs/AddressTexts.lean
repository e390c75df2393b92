import Mathlib.Algebra.Group.Nat.Defs
import NicFlow.Address.Ipv4
import NicFlow.Address.Mac

/-! Addresses come back from their texts. A text is cut at its separators, which no part has, and each
part is read as the octet that it was written for. -/

namespace NicFlow

namespace Text

variable {separator : Char}

theorem splitAll_eq_splitOn (text : List Char) : splitAll separator text = text.splitOn separator := by
  induction text with
  | nil => rfl
  | cons character rest ih =>
    rw [splitAll, List.splitOn_cons_eq_if_modifyHead, ih]
    simp only [beq_iff_eq]
    split
    · rfl
    · cases parts : List.splitOn separator rest with
      | nil => exact absurd parts (List.splitOn_ne_nil separator rest)
      | cons part others => rfl

/-- Parts that are joined come back if the separator is in none of them. -/
theorem splitAll_intercalate {parts : List (List Char)} (some : parts ≠ [])
    (clean : ∀ part ∈ parts, separator ∉ part) :
    splitAll separator ([separator].intercalate parts) = parts := by
  rw [splitAll_eq_splitOn]
  exact List.splitOn_intercalate separator clean some

private theorem mapM_map {α β : Type} {read : β → Option α} {write : α → β} {values : List α}
    (each : ∀ value ∈ values, read (write value) = some value) : (values.map write).mapM read = some values := by
  induction values with
  | nil => rfl
  | cons value rest ih =>
    have others := ih fun other member => each other (List.mem_cons_of_mem value member)
    rw [List.map_cons, List.mapM_cons, each value List.mem_cons_self, others]
    rfl

theorem hexValue?_digitChar {digit : Nat} (small : digit < 16) :
    hexValue? (Nat.digitChar digit) = some digit := by
  have all : ∀ digit < 16, hexValue? (Nat.digitChar digit) = some digit := by decide
  exact all digit small

/-- A number is read from its last digits up to what they leave out. -/
theorem ofHex?_hexDigits (width value : Nat) : ofHex? (hexDigits width value) = some (value % 16 ^ width) := by
  induction width generalizing value with
  | zero => simp [hexDigits, ofHex?, Nat.mod_one]
  | succ width ih =>
    have last := hexValue?_digitChar (Nat.mod_lt value (by decide : 0 < 16))
    have read := ih (value / 16)
    unfold ofHex? at read ⊢
    rw [hexDigits, List.foldlM_append, read]
    simp only [Option.bind_eq_bind, Option.bind_some, List.foldlM_cons, List.foldlM_nil, last, Option.map_some]
    rw [Nat.pow_succ, Nat.mul_comm (16 ^ width), Nat.mod_mul]
    congr 1
    omega

theorem length_hexDigits (width value : Nat) : (hexDigits width value).length = width := by
  induction width generalizing value with
  | zero => rfl
  | succ width ih => rw [hexDigits, List.length_append, ih, List.length_singleton]

theorem mem_hexDigits {width value : Nat} {character : Char} (member : character ∈ hexDigits width value) :
    ∃ digit < 16, character = Nat.digitChar digit := by
  induction width generalizing value with
  | zero => cases member
  | succ width ih =>
    rw [hexDigits, List.mem_append, List.mem_singleton] at member
    rcases member with earlier | last
    · exact ih earlier
    · exact ⟨value % 16, Nat.mod_lt value (by decide), last⟩

theorem not_mem_hexDigits (foreign : hexValue? separator = none) (width value : Nat) :
    separator ∉ hexDigits width value := by
  intro member
  obtain ⟨digit, small, same⟩ := mem_hexDigits member
  have read := hexValue?_digitChar small
  rw [← same, foreign] at read
  cases read

end Text

namespace Mac

private theorem octet?_hexDigits (octet : UInt8) : octet? (Text.hexDigits 2 octet.toNat) = some octet := by
  have small : octet.toNat < 16 ^ 2 := octet.toNat_lt
  rw [octet?, if_pos (Text.length_hexDigits 2 _), Text.ofHex?_hexDigits, Nat.mod_eq_of_lt small]
  simp

theorem toList_render (mac : Mac) :
    mac.render.toList = [':'].intercalate (mac.octets.map fun octet => Text.hexDigits 2 octet.toNat) := by
  have each : mac.octets.map (String.toList ∘ fun octet => String.ofList (Text.hexDigits 2 octet.toNat)) =
      mac.octets.map fun octet => Text.hexDigits 2 octet.toNat :=
    List.map_congr_left fun octet _ => String.toList_ofList
  rw [render, String.toList_intercalate, List.map_map, each]
  rfl

theorem parse?_render (mac : Mac) : parse? mac.render = some mac := by
  have given : mac.octets.map (fun octet => Text.hexDigits 2 octet.toNat) ≠ [] := by
    intro empty
    have length := mac.length_octets
    rw [List.map_eq_nil_iff.mp empty] at length
    cases length
  have clean : ∀ part ∈ mac.octets.map (fun octet => Text.hexDigits 2 octet.toNat), ':' ∉ part := by
    intro part member
    obtain ⟨octet, _, rfl⟩ := List.mem_map.mp member
    exact Text.not_mem_hexDigits rfl _ _
  rw [parse?, toList_render, Text.splitAll_intercalate given clean,
    Text.mapM_map fun octet _ => octet?_hexDigits octet]
  exact dif_pos mac.length_octets

theorem render_ne_empty (mac : Mac) : mac.render ≠ "" := by
  intro empty
  have read := parse?_render mac
  rw [empty] at read
  cases read

end Mac

namespace Ipv4

private theorem octet?_toString {value : Nat} (small : value < 256) :
    '.' ∉ (toString value).toList ∧ octet? (toString value).toList = some value := by
  have digits : (toString value).toList = Nat.toDigits 10 value := String.toList_ofList
  have all : ∀ value < 256, '.' ∉ Nat.toDigits 10 value ∧ octet? (Nat.toDigits 10 value) = some value := by
    decide +kernel
  rw [digits]
  exact all value small

private theorem octets_lt {address : UInt32} {octet : Nat} (member : octet ∈ octets address) : octet < 256 := by
  have small := address.toNat_lt
  simp only [octets, List.mem_cons, List.not_mem_nil, or_false] at member
  omega

theorem toList_render (address : UInt32) :
    (render address).toList = ['.'].intercalate ((octets address).map fun octet => (toString octet).toList) := by
  rw [render, String.toList_intercalate, List.map_map]
  rfl

theorem parse?_render (address : UInt32) : parse? (render address) = some address := by
  have clean : ∀ part ∈ (octets address).map (fun octet => (toString octet).toList), '.' ∉ part := by
    intro part member
    obtain ⟨octet, inside, rfl⟩ := List.mem_map.mp member
    exact (octet?_toString (octets_lt inside)).1
  have given : (octets address).map (fun octet => (toString octet).toList) ≠ [] := List.cons_ne_nil _ _
  have whole : ((address.toNat / 0x1000000 * 256 + address.toNat / 0x10000 % 256) * 256 +
      address.toNat / 0x100 % 256) * 256 + address.toNat % 256 = address.toNat := by
    omega
  rw [parse?, toList_render, Text.splitAll_intercalate given clean,
    Text.mapM_map fun octet member => (octet?_toString (octets_lt member)).2]
  show some (UInt32.ofNat _) = some address
  rw [whole, UInt32.ofNat_toNat]

theorem render_ne_empty (address : UInt32) : render address ≠ "" := by
  intro empty
  have read := parse?_render address
  rw [empty] at read
  cases read

end Ipv4

end NicFlow
