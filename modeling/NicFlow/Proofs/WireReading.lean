import NicFlow.Wire.Decoding

/-! Readers undo writers, whatever bytes follow. Steps that read all of their content one after the
other make up a repetition, so a repetition reads delimited content to its end. -/

namespace NicFlow.Wire

/-- No content is longer than a signed number of 64 bits can count. -/
def lengthLimit : Nat := 0x8000000000000000

theorem varint_small {value : Nat} (small : value < 128) : varint value = [UInt8.ofNat value] := by
  rw [varint, if_pos small]

theorem varint_large {value : Nat} (large : ¬ value < 128) :
    varint value = UInt8.ofNat (value % 128 + 128) :: varint (value / 128) := by
  rw [varint, if_neg large]

theorem varint_ne_nil (value : Nat) : varint value ≠ [] := by
  rw [varint]
  split <;> exact List.cons_ne_nil _ _

theorem toNat_of_lt {value : Nat} (small : value < 256) : (UInt8.ofNat value).toNat = value :=
  UInt8.toNat_ofNat_of_lt' small

private theorem varintOf?_varint (left : Nat) {value : Nat} (small : value < 2 * Nat.pow 128 left)
    (rest : Bytes) : varintOf? (left + 1) (varint value ++ rest) = some (value, rest) := by
  induction left generalizing value with
  | zero =>
    have bit : value < 2 := small
    have byte : (UInt8.ofNat value).toNat = value := toNat_of_lt (by omega)
    have low : UInt8.ofNat value < 128 := UInt8.lt_iff_toNat_lt.mpr (by rw [byte]; show value < 128; omega)
    have last : ¬ 2 ≤ UInt8.ofNat value := by
      rw [UInt8.le_iff_toNat_le, byte]
      show ¬ 2 ≤ value
      omega
    rw [varint_small (by omega), List.singleton_append, varintOf?, if_pos low,
      if_neg fun both => last both.2, byte]
  | succ left ih =>
    have bound : value < 2 * (Nat.pow 128 left * 128) := small
    by_cases ends : value < 128
    · have byte : (UInt8.ofNat value).toNat = value := toNat_of_lt (by omega)
      have low : UInt8.ofNat value < 128 := UInt8.lt_iff_toNat_lt.mpr (by rw [byte]; exact ends)
      rw [varint_small ends, List.singleton_append, varintOf?, if_pos low,
        if_neg fun both => absurd both.1 (Nat.succ_ne_zero left), byte]
    · have byte : (UInt8.ofNat (value % 128 + 128)).toNat = value % 128 + 128 := toNat_of_lt (by omega)
      have high : ¬ UInt8.ofNat (value % 128 + 128) < 128 := by
        rw [UInt8.lt_iff_toNat_lt, byte]
        show ¬ value % 128 + 128 < 128
        omega
      have shorter : value / 128 < 2 * Nat.pow 128 left := by omega
      have tail := ih shorter
      have whole : value % 128 + 128 - 128 + 128 * (value / 128) = value := by omega
      rw [varint_large ends, List.cons_append, varintOf?, if_neg high, tail]
      simp only [byte, whole]

theorem readVarint_varint {value : Nat} (small : value < 0x10000000000000000) (rest : Bytes) :
    readVarint (varint value ++ rest) = .ok (value, rest) := by
  have fits : value < 2 * Nat.pow 128 9 := small
  rw [readVarint, varintOf?_varint 9 fits]

private theorem WireType.ofCode?_code (type : WireType) : ofCode? type.code = some type := by
  cases type <;> rfl

theorem WireType.code_lt (type : WireType) : type.code < 8 := by
  cases type <;> decide

theorem readKey_key {number : Nat} (positive : 0 < number) (small : number < 0x20000000)
    (type : WireType) (rest : Bytes) :
    readKey (key number type ++ rest) = .ok ((number, type), rest) := by
  have code := type.code_lt
  have inRange : ¬ number * 8 + type.code ≥ 0x100000000 := by omega
  have remainder : (number * 8 + type.code) % 8 = type.code := by omega
  have quotient : (number * 8 + type.code) / 8 = number := by omega
  have nonzero : number ≠ 0 := by omega
  unfold readKey key
  rw [readVarint_varint (by omega)]
  simp only [Bind.bind, Except.bind, inRange, remainder, quotient, nonzero, if_false,
    WireType.ofCode?_code]

theorem expectType_self (type : WireType) : expectType type type = .ok () := if_pos rfl

private theorem takeBytes_append (content rest : Bytes) :
    takeBytes content.length (content ++ rest) = .ok (content, rest) := by
  have enough : ¬ (content ++ rest).length < content.length := by
    rw [List.length_append]
    omega
  rw [takeBytes, if_neg enough, List.take_left, List.drop_left]

theorem readDelimited_delimited {content : Bytes} (small : content.length < lengthLimit) (rest : Bytes) :
    readDelimited (delimited content ++ rest) = .ok (content, rest) := by
  unfold lengthLimit at small
  rw [readDelimited, delimited, List.append_assoc, readVarint_varint (by omega)]
  exact takeBytes_append content rest

theorem readText_delimited {text : String} (small : (utf8 text).length < lengthLimit) (rest : Bytes) :
    readText (delimited (utf8 text) ++ rest) = .ok (text, rest) := by
  have valid : String.fromUTF8? ⟨(utf8 text).toArray⟩ = some text := by
    simp only [utf8, Array.toArray_toList]
    exact dif_pos text.isValidUTF8
  rw [readText, readDelimited_delimited small]
  simp only [Bind.bind, Except.bind, valid]

theorem readVarint_signedVarint (value : Int32) (rest : Bytes) :
    ∃ word : Nat, readVarint (signedVarint value ++ rest) = .ok (word, rest) ∧
      Int32.ofInt word = value := by
  have range : 0 ≤ value.toInt % 0x10000000000000000 ∧
      value.toInt % 0x10000000000000000 < 0x10000000000000000 := by omega
  refine ⟨(value.toInt % 0x10000000000000000).toNat, readVarint_varint (by omega) rest, ?_⟩
  apply Int32.toInt_inj.mp
  have low := value.le_toInt
  have high := value.toInt_lt
  rw [Int32.toInt_ofInt, Int.toNat_of_nonneg range.1, Int.bmod_def]
  simp only [Int32.size]
  omega

section Repetition

variable {α : Type}

/-- The bytes are read by steps one after the other, whatever comes after them. -/
inductive Reads (step : α → Bytes → Decoding (α × Bytes)) : α → Bytes → α → Prop where
  | done {value} : Reads step value [] value
  | next {before middle after first others} (taken : first ≠ [])
      (read : ∀ rest, step before (first ++ rest) = .ok (middle, rest))
      (reads : Reads step middle others after) : Reads step before (first ++ others) after

variable {step : α → Bytes → Decoding (α × Bytes)} {before middle after : α} {first others : Bytes}

theorem Reads.single (taken : first ≠ [])
    (read : ∀ rest, step before (first ++ rest) = .ok (after, rest)) : Reads step before first after := by
  rw [← List.append_nil first]
  exact .next taken read .done

theorem Reads.append (reads : Reads step before first middle) (more : Reads step middle others after) :
    Reads step before (first ++ others) after := by
  induction reads with
  | done => exact more
  | next taken read _ ih =>
    rw [List.append_assoc]
    exact .next taken read (ih more)

/-- A repetition takes a byte at least with each step, so its fuel lasts. -/
theorem Reads.repeatUntil (reads : Reads step before first after) (rest : Bytes) {fuel : Nat}
    (enough : first.length < fuel) :
    repeatUntil step rest.length fuel before (first ++ rest) = .ok (after, rest) := by
  induction reads generalizing fuel with
  | done =>
    obtain ⟨fuel, rfl⟩ := Nat.exists_eq_succ_of_ne_zero (Nat.ne_of_gt enough)
    rw [List.nil_append, Wire.repeatUntil, if_neg (Nat.lt_irrefl _), if_pos rfl]
  | @next before middle after first others taken read _ ih =>
    obtain ⟨fuel, rfl⟩ := Nat.exists_eq_succ_of_ne_zero (Nat.ne_of_gt (Nat.zero_lt_of_lt enough))
    have present := List.length_pos_iff.mpr taken
    rw [List.length_append] at enough
    have longer : rest.length < (first ++ (others ++ rest)).length := by
      simp only [List.length_append]
      omega
    have shorter : others.length < fuel := by omega
    have goesOn := ih shorter
    rw [List.append_assoc, Wire.repeatUntil, if_pos longer, read]
    exact goesOn

theorem Reads.repeatDelimited (reads : Reads step before first after)
    (small : first.length < lengthLimit) (rest : Bytes) :
    repeatDelimited step before (delimited first ++ rest) = .ok (after, rest) := by
  unfold lengthLimit at small
  have enough : ¬ (first ++ rest).length < first.length := by
    rw [List.length_append]
    omega
  have left : (first ++ rest).length - first.length = rest.length := by
    rw [List.length_append]
    omega
  rw [Wire.repeatDelimited, delimited, List.append_assoc, readVarint_varint (by omega)]
  simp only [Bind.bind, Except.bind, enough, if_false, left]
  apply reads.repeatUntil
  rw [List.length_append]
  omega

theorem Reads.repeatAll (reads : Reads step before first after) :
    repeatAll step before first = .ok after := by
  have all := reads.repeatUntil [] (Nat.lt_succ_self _)
  rw [List.append_nil] at all
  rw [Wire.repeatAll]
  exact congrArg (Except.map Prod.fst) all

end Repetition

end NicFlow.Wire
