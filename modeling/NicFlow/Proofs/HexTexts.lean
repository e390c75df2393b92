import Mathlib.Data.List.Induction
import NicFlow.Proofs.AddressTexts

/-! Hexadecimal texts in both letter cases. A text denotes a number if it is, up to the case of its
letters, what is written for the number, and reading finds exactly the number that is denoted. Cutting a
text at a separator loses nothing and does not look at letters. -/

namespace NicFlow.Text

section LetterCase

variable {character separator : Char}

theorem toLower_cases (character : Char) : character.toLower = character ∨
    (65 ≤ character.toNat ∧ character.toNat ≤ 90) ∧ character.toLower.toNat = character.toNat + 32 := by
  unfold Char.toLower
  split
  next capital =>
    have low : 65 ≤ character.toNat := UInt32.le_iff_toNat_le.mp capital.1
    have high : character.toNat ≤ 90 := UInt32.le_iff_toNat_le.mp capital.2
    refine Or.inr ⟨⟨low, high⟩, ?_⟩
    have sum : (character.val + ('a'.val - 'A'.val)).toNat = (character.toNat + 32) % 4294967296 := by
      rw [UInt32.toNat_add]
      rfl
    have whole : (character.toNat + 32) % 4294967296 = character.toNat + 32 := by omega
    exact sum.trans whole
  next => exact Or.inl rfl

theorem toLower_ascii_iff : character.toLower.toNat < 128 ↔ character.toNat < 128 := by
  rcases toLower_cases character with same | ⟨capital, lowered⟩
  · rw [same]
  · omega

theorem toList_toLower (text : String) : text.toLower.toList = text.toList.map Char.toLower := String.toList_map

/-- Characters before the letters are not changed, and nothing is changed into them. -/
theorem toLower_eq_iff (plain : separator.toNat < 65) : character.toLower = separator ↔ character = separator := by
  rcases toLower_cases character with same | ⟨capital, lowered⟩
  · rw [same]
  · constructor
    · intro found
      rw [found] at lowered
      omega
    · intro found
      rw [found] at capital
      omega

private theorem hexValue?_toLower (character : Char) : hexValue? character.toLower = hexValue? character := by
  have capitals : ∀ code < 91, 65 ≤ code →
      hexValue? (Char.ofNat code).toLower = hexValue? (Char.ofNat code) := by decide
  rcases toLower_cases character with same | ⟨⟨low, high⟩, _⟩
  · rw [same]
  · rw [← Char.ofNat_toNat character]
    exact capitals character.toNat (by omega) low

end LetterCase

section Digits

variable {character : Char} {digits : List Char} {value : Nat}

/-- The character is a hexadecimal digit of either case. -/
def IsHexDigit (character : Char) : Prop := ∃ digit < 16, character.toLower = Nat.digitChar digit

/-- The text is what is written for the number, with letters of any case. -/
def Denotes (digits : List Char) (value : Nat) : Prop :=
  digits.map Char.toLower = hexDigits digits.length value ∧ value < 16 ^ digits.length

theorem hexValue?_eq_some_iff {digit : Nat} :
    hexValue? character = some digit ↔ digit < 16 ∧ character.toLower = Nat.digitChar digit := by
  constructor
  · intro read
    have table : ∀ code < 103, ∀ digit ∈ hexValue? (Char.ofNat code),
        digit < 16 ∧ (Char.ofNat code).toLower = Nat.digitChar digit := by decide
    have small : character.toNat < 103 := by
      apply Classical.byContradiction
      intro large
      have high (bound : Char) (low : bound.toNat < 103) : ¬ character ≤ bound := by
        intro below
        have order : character.toNat ≤ bound.toNat := below
        omega
      simp [hexValue?, high '9' (by decide), high 'f' (by decide), high 'F' (by decide)] at read
    rw [← Char.ofNat_toNat character] at read ⊢
    exact table character.toNat small digit read
  · intro ⟨small, lowered⟩
    rw [← hexValue?_toLower, lowered]
    exact hexValue?_digitChar small

private theorem ofHex?_concat (digits : List Char) (character : Char) : ofHex? (digits ++ [character]) =
    (ofHex? digits).bind fun value => (hexValue? character).map (value * 16 + ·) := by
  simp only [ofHex?, List.foldlM_append, List.foldlM_cons, List.foldlM_nil, Option.bind_eq_bind,
    Option.pure_def, Option.bind_fun_some]

private theorem denotes_nil_iff : Denotes [] value ↔ value = 0 := by
  simp [Denotes, hexDigits]

theorem denotes_concat_iff : Denotes (digits ++ [character]) value ↔
    Denotes digits (value / 16) ∧ hexValue? character = some (value % 16) := by
  have bound : value < 16 ^ (digits.length + 1) ↔ value / 16 < 16 ^ digits.length := by
    rw [Nat.pow_succ, Nat.div_lt_iff_lt_mul (by decide)]
  have remainder : value % 16 < 16 := Nat.mod_lt value (by decide)
  simp only [Denotes, List.map_append, List.map_singleton, List.length_append, List.length_singleton,
    hexDigits, bound, hexValue?_eq_some_iff, List.append_singleton_inj]
  constructor
  · intro denotes
    obtain ⟨⟨earlier, last⟩, small⟩ := denotes
    exact ⟨⟨earlier, small⟩, remainder, last⟩
  · intro denotes
    obtain ⟨⟨earlier, small⟩, _, last⟩ := denotes
    exact ⟨⟨earlier, last⟩, small⟩

theorem ofHex?_eq_some_iff : ofHex? digits = some value ↔ Denotes digits value := by
  induction digits using List.reverseRecOn generalizing value with
  | nil =>
    rw [denotes_nil_iff, eq_comm]
    exact Option.some_inj
  | append_singleton digits character ih =>
    rw [ofHex?_concat, denotes_concat_iff, ← ih]
    constructor
    · intro read
      obtain ⟨high, earlier, read⟩ := Option.bind_eq_some_iff.mp read
      obtain ⟨low, last, rfl⟩ := Option.map_eq_some_iff.mp read
      have small := (hexValue?_eq_some_iff.mp last).1
      have quotient : (high * 16 + low) / 16 = high := by omega
      have remainder : (high * 16 + low) % 16 = low := by omega
      rw [quotient, remainder]
      exact ⟨earlier, last⟩
    · intro ⟨earlier, last⟩
      rw [earlier, last]
      exact congrArg some (Nat.div_add_mod' value 16)

theorem exists_denotes_iff : (∃ value, Denotes digits value) ↔ ∀ character ∈ digits, IsHexDigit character := by
  induction digits using List.reverseRecOn with
  | nil => exact iff_of_true ⟨0, denotes_nil_iff.mpr rfl⟩ (fun _ member => absurd member List.not_mem_nil)
  | append_singleton digits character ih =>
    rw [List.forall_mem_append, List.forall_mem_singleton, ← ih]
    constructor
    · intro ⟨value, denotes⟩
      obtain ⟨earlier, last⟩ := denotes_concat_iff.mp denotes
      exact ⟨⟨_, earlier⟩, _, hexValue?_eq_some_iff.mp last⟩
    · intro ⟨⟨high, earlier⟩, digit, small, last⟩
      refine ⟨high * 16 + digit, denotes_concat_iff.mpr ?_⟩
      have quotient : (high * 16 + digit) / 16 = high := by omega
      have remainder : (high * 16 + digit) % 16 = digit := by omega
      rw [quotient, remainder]
      exact ⟨earlier, hexValue?_eq_some_iff.mpr ⟨small, last⟩⟩

theorem exists_ofHex?_iff : (∃ value, ofHex? digits = some value) ↔ ∀ character ∈ digits, IsHexDigit character := by
  simp only [ofHex?_eq_some_iff, exists_denotes_iff]

theorem ofHex?_eq_none_iff : ofHex? digits = none ↔ ∃ character ∈ digits, ¬ IsHexDigit character := by
  rw [← not_iff_not, ← ne_eq, Option.ne_none_iff_exists', exists_ofHex?_iff]
  simp only [not_exists, not_and, Classical.not_not]

theorem ofHex?_toLower (digits : List Char) : ofHex? (digits.map Char.toLower) = ofHex? digits := by
  unfold ofHex?
  rw [List.foldlM_map]
  simp only [hexValue?_toLower]

theorem denotes_hexDigits {width : Nat} (small : value < 16 ^ width) : Denotes (hexDigits width value) value := by
  rw [← ofHex?_eq_some_iff, ofHex?_hexDigits, Nat.mod_eq_of_lt small]

theorem hexDigits_inj {width left right : Nat} (leftSmall : left < 16 ^ width) (rightSmall : right < 16 ^ width)
    (same : hexDigits width left = hexDigits width right) : left = right := by
  have read := ofHex?_eq_some_iff.mpr (denotes_hexDigits leftSmall)
  rw [same, ofHex?_eq_some_iff.mpr (denotes_hexDigits rightSmall)] at read
  exact (Option.some.inj read).symm

theorem toLower_hexDigits (width value : Nat) : (hexDigits width value).map Char.toLower = hexDigits width value := by
  have table : ∀ digit < 16, (Nat.digitChar digit).toLower = Nat.digitChar digit := by decide
  have kept : ∀ character ∈ hexDigits width value, character.toLower = id character := by
    intro character member
    obtain ⟨digit, small, rfl⟩ := mem_hexDigits member
    exact table digit small
  rw [List.map_congr_left kept, List.map_id]

end Digits

section Cutting

variable {separator : Char} {text : List Char}

theorem intercalate_splitAll (separator : Char) (text : List Char) :
    [separator].intercalate (splitAll separator text) = text := by
  rw [splitAll_eq_splitOn]
  exact List.intercalate_splitOn separator

private theorem not_mem_of_mem_splitAll {part : List Char} (member : part ∈ splitAll separator text) : separator ∉ part := by
  induction text generalizing part with
  | nil =>
    rw [splitAll, List.mem_singleton] at member
    rw [member]
    exact List.not_mem_nil
  | cons character rest ih =>
    rw [splitAll] at member
    split at member
    · rcases List.mem_cons.mp member with rfl | later
      · exact List.not_mem_nil
      · exact ih later
    next other =>
      cases parts : splitAll separator rest with
      | nil =>
        rw [parts, List.mem_singleton] at member
        rw [member, List.mem_singleton]
        exact Ne.symm other
      | cons first others =>
        rw [parts] at member ih
        rcases List.mem_cons.mp member with rfl | later
        · intro inside
          rcases List.mem_cons.mp inside with same | inside
          · exact other same.symm
          · exact ih List.mem_cons_self inside
        · exact ih (List.mem_cons_of_mem _ later)

/-- The parts of a text are the parts without the separator that it is joined of. -/
theorem splitAll_eq_iff {parts : List (List Char)} (some : parts ≠ []) :
    splitAll separator text = parts ↔ text = [separator].intercalate parts ∧ ∀ part ∈ parts, separator ∉ part := by
  constructor
  · intro cut
    subst cut
    exact ⟨(intercalate_splitAll separator text).symm, fun part => not_mem_of_mem_splitAll⟩
  · intro ⟨joined, clean⟩
    rw [joined]
    exact splitAll_intercalate some clean

theorem splitAll_toLower (plain : separator.toNat < 65) (text : List Char) :
    splitAll separator (text.map Char.toLower) = (splitAll separator text).map (List.map Char.toLower) := by
  induction text with
  | nil => rfl
  | cons character rest ih =>
    simp only [List.map_cons, splitAll, toLower_eq_iff plain, ih]
    split
    · rfl
    · cases splitAll separator rest <;> rfl

theorem splitFirst_eq_some_iff {before after : List Char} :
    splitFirst separator text = some (before, after) ↔
      separator ∉ before ∧ text = before ++ separator :: after := by
  induction text generalizing before after with
  | nil => simp [splitFirst]
  | cons character rest ih =>
    rw [splitFirst]
    split
    next here =>
      subst here
      cases before with
      | nil => simp
      | cons first others => simp +contextual [eq_comm]
    next other =>
      cases before with
      | nil => simp [other]
      | cons first others =>
        simp only [Option.map_eq_some_iff, Prod.exists, ih, Prod.mk.injEq, List.cons.injEq, List.mem_cons,
          List.cons_append, not_or]
        constructor
        · intro ⟨_, _, ⟨clean, cut⟩, ⟨same, others⟩, rest⟩
          subst same others rest
          exact ⟨⟨Ne.symm other, clean⟩, rfl, cut⟩
        · intro ⟨⟨_, clean⟩, same, cut⟩
          exact ⟨_, _, ⟨clean, cut⟩, ⟨same, rfl⟩, rfl⟩

theorem splitFirst_toLower (plain : separator.toNat < 65) (text : List Char) :
    splitFirst separator (text.map Char.toLower) =
      (splitFirst separator text).map (Prod.map (List.map Char.toLower) (List.map Char.toLower)) := by
  induction text with
  | nil => rfl
  | cons character rest ih =>
    simp only [List.map_cons, splitFirst, toLower_eq_iff plain, ih]
    split
    · rfl
    · cases splitFirst separator rest <;> rfl

end Cutting

end NicFlow.Text
