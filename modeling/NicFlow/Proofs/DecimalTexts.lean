import Mathlib.Data.List.Induction
import NicFlow.Proofs.HexTexts

/-! Decimal texts. A number is read from its numeral after any number of zeros. In an internet address no
octet has such zeros, so that every address has one text and every text that is an address comes back. -/

namespace NicFlow

namespace Text

variable {character : Char} {digits : List Char} {value : Nat}

private theorem isDigit_iff : character.isDigit ↔ ∃ digit < 10, character = Nat.digitChar digit := by
  constructor
  · intro decimal
    have bounds : 48 ≤ character.toNat ∧ character.toNat ≤ 57 := Char.isDigit_iff_toNat.mp decimal
    have small : character.toNat - 48 < 10 := by omega
    refine ⟨character.toNat - 48, small, Char.toNat_inj.mp ?_⟩
    rw [Nat.toNat_digitChar_of_lt_ten small]
    omega
  · rintro ⟨digit, small, rfl⟩
    rw [Nat.isDigit_digitChar, decide_eq_true_eq]
    exact small

/-- Reads on after digits of the given number. -/
def readDigit? (value : Nat) (digit : Char) : Option Nat :=
  if digit.isDigit then some (value * 10 + (digit.toNat - 48)) else none

private theorem readDigit?_eq_some_iff {start : Nat} : readDigit? start character = some value ↔
    value / 10 = start ∧ character = Nat.digitChar (value % 10) := by
  unfold readDigit?
  constructor
  · intro read
    split at read
    next decimal =>
      obtain ⟨digit, small, rfl⟩ := isDigit_iff.mp decimal
      rw [Nat.toNat_digitChar_sub_48_of_lt_ten small] at read
      have sum : start * 10 + digit = value := Option.some.inj read
      have quotient : value / 10 = start := by omega
      have remainder : value % 10 = digit := by omega
      exact ⟨quotient, by rw [remainder]⟩
    next => cases read
  · rintro ⟨rfl, rfl⟩
    have small : value % 10 < 10 := Nat.mod_lt value (by decide)
    rw [if_pos (isDigit_iff.mpr ⟨value % 10, small, rfl⟩), Nat.toNat_digitChar_sub_48_of_lt_ten small,
      Nat.div_add_mod' value 10]

private theorem ofDecimal?_concat (digits : List Char) (character : Char) : ofDecimal? (digits ++ [character]) =
    if digits = [] then readDigit? 0 character else (ofDecimal? digits).bind (readDigit? · character) := by
  have given : (digits ++ [character]).isEmpty = false := by simp
  have read : ofDecimal? (digits ++ [character]) =
      (digits.foldlM readDigit? 0).bind (readDigit? · character) := by
    rw [ofDecimal?, given]
    simp only [Bool.false_eq_true, ↓reduceIte, List.foldlM_append, List.foldlM_cons, List.foldlM_nil,
      Option.bind_eq_bind, Option.pure_def, Option.bind_fun_some]
    rfl
  rw [read]
  cases digits with
  | nil => rfl
  | cons first rest => rfl

private theorem toDigits_concat (value : Nat) : Nat.toDigits 10 value =
    (if value / 10 = 0 then [] else Nat.toDigits 10 (value / 10)) ++ [Nat.digitChar (value % 10)] := by
  split
  next small =>
    have below : value < 10 := by omega
    rw [Nat.toDigits_of_lt_base below, Nat.mod_eq_of_lt below]
    rfl
  next large => exact Nat.toDigits_of_base_le (by decide) (by omega)

/-- The numeral of the number, after any number of zeros. -/
theorem ofDecimal?_eq_some_iff : ofDecimal? digits = some value ↔
    ∃ zeros, digits = List.replicate zeros '0' ++ Nat.toDigits 10 value := by
  induction digits using List.reverseRecOn generalizing value with
  | nil => simp [ofDecimal?, Nat.toDigits_ne_nil]
  | append_singleton digits character ih =>
    rw [ofDecimal?_concat]
    simp only [toDigits_concat value, ← List.append_assoc, List.append_singleton_inj, exists_and_right]
    by_cases first : digits = []
    · rw [if_pos first, readDigit?_eq_some_iff, first]
      simp [Nat.toDigits_ne_nil]
    · rw [if_neg first, Option.bind_eq_some_iff]
      simp only [readDigit?_eq_some_iff, existsAndEq, true_and, ih]
      refine and_congr_left fun _ => ?_
      by_cases single : value / 10 = 0
      · rw [if_pos single, single, Nat.toDigits_zero]
        simp only [List.append_nil, ← List.replicate_succ']
        constructor
        · rintro ⟨zeros, rfl⟩
          exact ⟨zeros + 1, rfl⟩
        · rintro ⟨zeros, rfl⟩
          cases zeros with
          | zero => exact absurd rfl first
          | succ others => exact ⟨others, rfl⟩
      · rw [if_neg single]

private theorem head?_toDigits (positive : 0 < value) : (Nat.toDigits 10 value).head? ≠ some '0' := by
  induction value using Nat.strongRecOn with
  | ind value ih =>
    rw [toDigits_concat]
    split
    next single =>
      have nonzero : value % 10 ≠ 0 := by omega
      simpa using nonzero
    next longer =>
      have earlier := ih (value / 10) (by omega) (Nat.pos_of_ne_zero longer)
      rw [List.head?_append, Option.or_of_isSome (List.isSome_head?.mpr Nat.toDigits_ne_nil)]
      exact earlier

private theorem ofDecimal?_plain_iff :
    ofDecimal? digits = some value ∧ (digits.head? ≠ some '0' ∨ digits.length = 1) ↔
      digits = Nat.toDigits 10 value := by
  rw [ofDecimal?_eq_some_iff]
  constructor
  · rintro ⟨⟨zeros, rfl⟩, plain⟩
    cases zeros with
    | zero => rfl
    | succ zeros =>
      have long := Nat.length_toDigits_pos (b := 10) (n := value)
      rcases plain with plain | single
      · exact absurd rfl plain
      · simp only [List.length_append, List.length_replicate] at single
        omega
  · rintro rfl
    refine ⟨⟨0, rfl⟩, ?_⟩
    rcases Nat.eq_zero_or_pos value with rfl | positive
    · exact Or.inr rfl
    · exact Or.inl (head?_toDigits positive)

end Text

namespace Ipv4

open Text

variable {text : String} {address : UInt32}

theorem octet?_eq_some_iff {digits : List Char} {value : Nat} :
    octet? digits = some value ↔ value < 256 ∧ digits = Nat.toDigits 10 value := by
  rw [octet?, Option.bind_eq_bind, Option.bind_eq_some_iff, ← ofDecimal?_plain_iff]
  constructor
  · rintro ⟨found, read, judged⟩
    split at judged
    next conditions =>
      cases judged
      exact ⟨Nat.lt_succ_of_le conditions.2.1, read, conditions.2.2⟩
    next => cases judged
  · rintro ⟨small, read, plain⟩
    have short : digits.length ≤ 3 := by
      rw [ofDecimal?_plain_iff.mp ⟨read, plain⟩, Nat.length_toDigits_le_iff (by decide) (by decide)]
      omega
    exact ⟨value, read, if_pos ⟨short, Nat.le_of_lt_succ small, plain⟩⟩

theorem mapM_octet?_iff {parts : List (List Char)} {octets : List Nat} :
    parts.mapM octet? = some octets ↔
      (∀ octet ∈ octets, octet < 256) ∧ parts = octets.map (Nat.toDigits 10) := by
  induction parts generalizing octets with
  | nil => cases octets <;> simp
  | cons part others ih =>
    rw [List.mapM_cons]
    simp only [Option.bind_eq_bind, Option.bind_eq_some_iff, Option.pure_def, Option.some.injEq,
      octet?_eq_some_iff, ih]
    cases octets with
    | nil => simp
    | cons octet octets =>
      simp only [List.forall_mem_cons, List.map_cons, List.cons.injEq]
      constructor
      · rintro ⟨_, ⟨small, rfl⟩, _, ⟨smaller, rfl⟩, rfl, rfl⟩
        exact ⟨⟨small, smaller⟩, rfl, rfl⟩
      · rintro ⟨⟨small, smaller⟩, rfl, rfl⟩
        exact ⟨octet, ⟨small, rfl⟩, octets, ⟨smaller, rfl⟩, rfl, rfl⟩

private theorem octets_of_number {first second third fourth : Nat}
    (small : first < 256 ∧ second < 256 ∧ third < 256 ∧ fourth < 256)
    (number : address.toNat = ((first * 256 + second) * 256 + third) * 256 + fourth) :
    octets address = [first, second, third, fourth] := by
  have highest : address.toNat / 0x1000000 = first := by omega
  have high : address.toNat / 0x10000 % 256 = second := by omega
  have low : address.toNat / 0x100 % 256 = third := by omega
  have lowest : address.toNat % 256 = fourth := by omega
  rw [octets, highest, high, low, lowest]

/-- An address has one text, and only its text is read as the address. -/
theorem parse?_eq_some_iff : parse? text = some address ↔ text = render address := by
  constructor
  · intro read
    rw [parse?, Option.bind_eq_bind, Option.bind_eq_some_iff] at read
    obtain ⟨found, cut, built⟩ := read
    obtain ⟨small, parts⟩ := mapM_octet?_iff.mp cut
    split at built
    next first second third fourth =>
      have bounds : first < 256 ∧ second < 256 ∧ third < 256 ∧ fourth < 256 := by simpa using small
      have number : address.toNat = ((first * 256 + second) * 256 + third) * 256 + fourth := by
        rw [← Option.some.inj built]
        exact UInt32.toNat_ofNat_of_lt' (by change _ < 4294967296; omega)
      apply String.toList_inj.mp
      rw [toList_render, octets_of_number bounds number, ← intercalate_splitAll '.' text.toList, parts]
      exact congrArg _ (List.map_congr_left fun octet _ => Nat.toList_repr.symm)
    next => cases built
  · rintro rfl
    exact parse?_render address

theorem render_inj {other : UInt32} : render address = render other ↔ address = other := by
  rw [← parse?_eq_some_iff, parse?_render, Option.some.injEq]

/-- Four octets joined by dots, of which the first counts most. -/
def Dotted (text : String) (address : UInt32) : Prop :=
  ∃ first second third fourth : UInt8,
    text = toString first.toNat ++ "." ++ toString second.toNat ++ "." ++ toString third.toNat ++ "." ++
      toString fourth.toNat ∧
    address.toNat = ((first.toNat * 256 + second.toNat) * 256 + third.toNat) * 256 + fourth.toNat

private theorem exists_octets (address : UInt32) : ∃ first second third fourth : UInt8,
    address.toNat = ((first.toNat * 256 + second.toNat) * 256 + third.toNat) * 256 + fourth.toNat := by
  have whole := address.toNat_lt
  refine ⟨.ofNat (address.toNat / 0x1000000), .ofNat (address.toNat / 0x10000), .ofNat (address.toNat / 0x100),
    .ofNat address.toNat, ?_⟩
  simp only [UInt8.toNat_ofNat']
  omega

private theorem render_of_number {first second third fourth : UInt8}
    (number : address.toNat = ((first.toNat * 256 + second.toNat) * 256 + third.toNat) * 256 + fourth.toNat) :
    render address = toString first.toNat ++ "." ++ toString second.toNat ++ "." ++ toString third.toNat ++ "." ++
      toString fourth.toNat := by
  rw [render, octets_of_number ⟨first.toNat_lt, second.toNat_lt, third.toNat_lt, fourth.toNat_lt⟩ number]
  rfl

theorem dotted_iff : Dotted text address ↔ text = render address := by
  constructor
  · rintro ⟨first, second, third, fourth, rfl, number⟩
    exact (render_of_number number).symm
  · rintro rfl
    obtain ⟨first, second, third, fourth, number⟩ := exists_octets address
    exact ⟨first, second, third, fourth, render_of_number number, number⟩

theorem ofText_eq_iff : ofText text = address ↔ Dotted text address ∨ address = 0 ∧ ¬ ∃ other, Dotted text other := by
  simp only [dotted_iff, ← parse?_eq_some_iff, ofText]
  cases parse? text with
  | none => simp [eq_comm]
  | some found => simp

end Ipv4

end NicFlow
