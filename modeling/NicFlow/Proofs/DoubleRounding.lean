import Mathlib.Algebra.Group.Nat.Defs
import NicFlow.Number.Double

/-! An integer of 64 bits becomes the nearest double, and of two nearest ones the even one. Every finite
double is a whole multiple of the least positive one, so distances are compared as integers. -/

namespace NicFlow.Double

/-- The size of a finite double, in units of the least positive one. -/
def magnitude (number : Double) : Nat := number.parts.1 * 2 ^ (number.parts.2 + 1074).toNat

/-- The value of a finite double, in units of the least positive one. -/
def value (number : Double) : Int :=
  if number.signBit then -(number.magnitude : Int) else number.magnitude

/-- The binary places of doubles below one. -/
def places : Nat := 1074

/-- One, in the same units. -/
def unitsInOne : Nat := 2 ^ places

def distance (number : Double) (integer : Int) : Nat := (number.value - integer * unitsInOne).natAbs

/-- No finite double is nearer to the integer, and where another is as near, this one is even. -/
structure Nearest (integer : Int) (number : Double) : Prop where
  finite : number.isFinite
  closest : ∀ other : Double, other.isFinite → number.distance integer ≤ other.distance integer
  even : ∀ other : Double, other.isFinite → other.distance integer = number.distance integer →
    other.value ≠ number.value → number.magnitudeBits % 2 = 0

private theorem unitsInOne_pos : 0 < unitsInOne := Nat.two_pow_pos _

section Quotients

variable {numerator denominator : Nat}

private theorem roundedQuotient_mul {factor : Nat} (positive : 0 < factor) :
    roundedQuotient (numerator * factor) (denominator * factor) = roundedQuotient numerator denominator := by
  have twice (remainder : Nat) : 2 * (remainder * factor) = 2 * remainder * factor :=
    (Nat.mul_assoc ..).symm
  simp only [roundedQuotient, Nat.mul_div_mul_right _ _ positive, Nat.mul_mod_mul_right, twice,
    Nat.mul_lt_mul_right positive]

private theorem roundedQuotient_cases (numerator denominator : Nat) :
    (roundedQuotient numerator denominator = numerator / denominator ∧
      2 * (numerator % denominator) ≤ denominator ∨
    roundedQuotient numerator denominator = numerator / denominator + 1 ∧
      denominator ≤ 2 * (numerator % denominator)) ∧
    (2 * (numerator % denominator) = denominator → roundedQuotient numerator denominator % 2 = 0) := by
  simp only [roundedQuotient]
  split
  · omega
  · split <;> omega

private theorem multiple_cases (multiple quotient denominator : Nat) :
    multiple * denominator + denominator ≤ quotient * denominator ∨ multiple = quotient ∨
      multiple = quotient + 1 ∨
      quotient * denominator + denominator + denominator ≤ multiple * denominator := by
  by_cases less : multiple < quotient
  · left
    rw [← Nat.succ_mul]
    exact Nat.mul_le_mul_right _ less
  · by_cases more : quotient + 1 < multiple
    · right; right; right
      rw [← Nat.succ_mul, ← Nat.succ_mul]
      exact Nat.mul_le_mul_right _ more
    · omega

def gap (left right : Nat) : Nat := ((left : Int) - right).natAbs

/-- No multiple is nearer than the rounded one, and if another is as near, the rounded one is even. -/
theorem roundedQuotient_nearest (positive : 0 < denominator) (multiple : Nat) :
    gap (roundedQuotient numerator denominator * denominator) numerator ≤
      gap (multiple * denominator) numerator ∧
    (gap (multiple * denominator) numerator =
        gap (roundedQuotient numerator denominator * denominator) numerator →
      multiple ≠ roundedQuotient numerator denominator →
      roundedQuotient numerator denominator % 2 = 0) := by
  obtain ⟨rounded, even⟩ := roundedQuotient_cases numerator denominator
  have parts := Nat.div_add_mod' numerator denominator
  have remainder := Nat.mod_lt numerator positive
  have next : (numerator / denominator + 1) * denominator =
      numerator / denominator * denominator + denominator := Nat.succ_mul ..
  unfold gap
  rcases multiple_cases multiple (numerator / denominator) denominator with far | rfl | rfl | far
  all_goals rcases rounded with ⟨same, half⟩ | ⟨same, half⟩
  all_goals
    rw [same] at even ⊢
    omega

end Quotients

section Patterns

variable {number : Double}

theorem magnitude_of_small (small : number.magnitudeBits < 0x10000000000000) :
    number.magnitude = number.magnitudeBits := by
  have exponent : number.magnitudeBits / 0x10000000000000 = 0 := Nat.div_eq_of_lt small
  have fraction : number.magnitudeBits % 0x10000000000000 = number.magnitudeBits := Nat.mod_eq_of_lt small
  simp only [magnitude, parts, exponent, fraction, ↓reduceIte, Int.reduceNeg, Int.reduceAdd,
    Int.toNat_zero, Nat.pow_zero, Nat.mul_one]

theorem magnitude_of_large (large : 0x10000000000000 ≤ number.magnitudeBits) :
    number.magnitude = (number.magnitudeBits % 0x10000000000000 + 0x10000000000000) *
      2 ^ (number.magnitudeBits / 0x10000000000000 - 1) := by
  have exponent : number.magnitudeBits / 0x10000000000000 ≠ 0 := by omega
  have place : ((number.magnitudeBits / 0x10000000000000 : Nat) - 1075 + 1074 : Int).toNat =
      number.magnitudeBits / 0x10000000000000 - 1 := by omega
  simp only [magnitude, parts, exponent, ↓reduceIte, place]

private theorem magnitude_of_pattern {place significand : Nat}
    (pattern : number.magnitudeBits = place * 0x10000000000000 + significand)
    (least : 0x10000000000000 ≤ significand) (most : significand ≤ 0x20000000000000) :
    number.magnitude = significand * 2 ^ place := by
  rw [magnitude_of_large (by omega)]
  by_cases carried : significand = 0x20000000000000
  · have exponent : number.magnitudeBits / 0x10000000000000 - 1 = place + 1 := by omega
    have fraction : number.magnitudeBits % 0x10000000000000 = 0 := by omega
    rw [exponent, fraction, carried, Nat.pow_succ]
    omega
  · have exponent : number.magnitudeBits / 0x10000000000000 - 1 = place := by omega
    have fraction : number.magnitudeBits % 0x10000000000000 = significand - 0x10000000000000 := by omega
    rw [exponent, fraction, Nat.sub_add_cancel least]

private theorem magnitude_lt {place : Nat} (low : number.magnitudeBits / 0x10000000000000 ≤ place) :
    number.magnitude < 0x10000000000000 * 2 ^ place := by
  by_cases small : number.magnitudeBits < 0x10000000000000
  · rw [magnitude_of_small small]
    exact Nat.lt_of_lt_of_le small (Nat.le_mul_of_pos_right _ (Nat.two_pow_pos place))
  · rw [magnitude_of_large (Nat.le_of_not_lt small)]
    have fraction : number.magnitudeBits % 0x10000000000000 + 0x10000000000000 < 0x10000000000000 * 2 := by
      omega
    calc
      _ < 0x10000000000000 * 2 * 2 ^ (number.magnitudeBits / 0x10000000000000 - 1) :=
        Nat.mul_lt_mul_of_pos_right fraction (Nat.two_pow_pos _)
      _ = 0x10000000000000 * 2 ^ (number.magnitudeBits / 0x10000000000000) := by
        rw [Nat.mul_assoc, Nat.mul_comm 2, ← Nat.pow_succ, Nat.succ_eq_add_one, Nat.sub_add_cancel (by omega)]
      _ ≤ 0x10000000000000 * 2 ^ place :=
        Nat.mul_le_mul_left _ (Nat.pow_le_pow_right (by decide) low)

private theorem magnitude_cases (number : Double) (place : Nat) :
    (∃ multiple, number.magnitude = multiple * 2 ^ place) ∨
      number.magnitude < 0x10000000000000 * 2 ^ place := by
  by_cases low : number.magnitudeBits / 0x10000000000000 ≤ place
  · exact Or.inr (magnitude_lt low)
  · left
    obtain ⟨above, exponent⟩ : ∃ above, number.magnitudeBits / 0x10000000000000 - 1 = above + place :=
      ⟨_, (Nat.sub_add_cancel (by omega)).symm⟩
    rw [magnitude_of_large (by omega), exponent, Nat.pow_add, ← Nat.mul_assoc]
    exact ⟨_, rfl⟩

theorem magnitude_lt_magnitude {other : Double} (less : number.magnitudeBits < other.magnitudeBits) :
    number.magnitude < other.magnitude := by
  by_cases small : other.magnitudeBits < 0x10000000000000
  · rwa [magnitude_of_small small, magnitude_of_small (Nat.lt_trans less small)]
  · have large := Nat.le_of_not_lt small
    by_cases low : number.magnitudeBits / 0x10000000000000 ≤ other.magnitudeBits / 0x10000000000000 - 1
    · apply Nat.lt_of_lt_of_le (magnitude_lt low)
      rw [magnitude_of_large large]
      exact Nat.mul_le_mul_right _ (Nat.le_add_left ..)
    · have exponent : number.magnitudeBits / 0x10000000000000 = other.magnitudeBits / 0x10000000000000 := by
        omega
      rw [magnitude_of_large large, magnitude_of_large (by omega), exponent]
      exact Nat.mul_lt_mul_of_pos_right (by omega) (Nat.two_pow_pos _)

theorem magnitude_le_iff {other : Double} :
    number.magnitude ≤ other.magnitude ↔ number.magnitudeBits ≤ other.magnitudeBits := by
  constructor
  · intro atMost
    apply Nat.le_of_not_lt
    intro more
    exact absurd atMost (Nat.not_le_of_lt (magnitude_lt_magnitude more))
  · intro atMost
    rcases Nat.lt_or_eq_of_le atMost with less | same
    · exact Nat.le_of_lt (magnitude_lt_magnitude less)
    · simp only [magnitude, parts, same]
      exact Nat.le_refl _

end Patterns

section Signs

private theorem toNat_eq (number : Double) : number.bits.toNat =
    (if number.signBit then 0x8000000000000000 else 0) + number.magnitudeBits := by
  have bound := number.bits.toNat_lt
  simp only [signBit, magnitudeBits, UInt64.le_iff_toNat_le, UInt64.reduceToNat, decide_eq_true_eq]
  split <;> omega

private theorem toNat_negate (number : Double) :
    number.negate.bits.toNat = number.bits.toNat ^^^ 2 ^ 63 := UInt64.toNat_xor ..

theorem magnitudeBits_negate (number : Double) : number.negate.magnitudeBits = number.magnitudeBits := by
  have low : number.negate.bits.toNat % 2 ^ 63 = number.bits.toNat % 2 ^ 63 := by
    rw [toNat_negate, Nat.xor_mod_two_pow, Nat.mod_self, Nat.xor_zero]
  exact low

private theorem signBit_negate (number : Double) : number.negate.signBit = !number.signBit := by
  have high : number.negate.bits.toNat / 2 ^ 63 = number.bits.toNat / 2 ^ 63 ^^^ 1 := by
    rw [toNat_negate, Nat.xor_div_two_pow, Nat.div_self (Nat.two_pow_pos 63)]
  have bound := number.bits.toNat_lt
  have sign (bits : UInt64) : 0x8000000000000000 ≤ bits ↔ 2 ^ 63 ≤ bits.toNat := UInt64.le_iff_toNat_le
  simp only [signBit, sign, ← decide_not, decide_eq_decide]
  by_cases positive : number.bits.toNat < 2 ^ 63
  · rw [Nat.div_eq_of_lt positive, Nat.zero_xor] at high
    omega
  · have one : number.bits.toNat / 2 ^ 63 = 1 := by omega
    rw [one, Nat.xor_self] at high
    omega

private theorem magnitude_negate (number : Double) : number.negate.magnitude = number.magnitude := by
  simp only [magnitude, parts, magnitudeBits_negate]

theorem value_negate (number : Double) : number.negate.value = -number.value := by
  simp only [value, signBit_negate, magnitude_negate]
  cases number.signBit
  · rfl
  · exact (Int.neg_neg _).symm

theorem isFinite_negate (number : Double) : number.negate.isFinite = number.isFinite := by
  simp only [isFinite, magnitudeBits_negate]

theorem distance_negate (number : Double) (integer : Int) :
    number.negate.distance integer = number.distance (-integer) := by
  simp only [distance, value_negate, Int.neg_mul]
  omega

theorem Nearest.negate {integer : Int} {number : Double} (nearest : Nearest integer number) :
    Nearest (-integer) number.negate := by
  have distances (other : Double) : other.distance (-integer) = other.negate.distance integer :=
    (distance_negate other integer).symm
  have same : number.negate.distance (-integer) = number.distance integer := by
    rw [distance_negate, Int.neg_neg]
  refine ⟨?_, ?_, ?_⟩
  · rw [isFinite_negate]
    exact nearest.finite
  · intro other finite
    rw [same, distances]
    exact nearest.closest other.negate (by rwa [isFinite_negate])
  · intro other finite tie different
    rw [same, distances] at tie
    rw [magnitudeBits_negate]
    refine nearest.even other.negate (by rwa [isFinite_negate]) tie ?_
    rw [value_negate] at different ⊢
    omega

end Signs

section Uniqueness

variable {integer : Int} {left right : Double}

private theorem value_eq_magnitude (notNegative : 0 ≤ left.value) : left.value = left.magnitude := by
  unfold value at notNegative ⊢
  split
  next negative =>
    rw [if_pos negative] at notNegative
    omega
  next => rfl

/-- The double after one that is not negative. -/
def next (number : Double) : Double := ⟨UInt64.ofNat (number.magnitudeBits + 1)⟩

private theorem magnitudeBits_next (bound : left.magnitudeBits < infinityBits) :
    left.next.magnitudeBits = left.magnitudeBits + 1 := by
  unfold infinityBits at bound
  simp only [next, magnitudeBits, UInt64.toNat_ofNat'] at bound ⊢
  omega

private theorem signBit_next (bound : left.magnitudeBits < infinityBits) : left.next.signBit = false := by
  unfold infinityBits at bound
  simp only [next, signBit, UInt64.le_iff_toNat_le, UInt64.toNat_ofNat', UInt64.reduceToNat,
    decide_eq_false_iff_not]
  omega

private theorem value_next (bound : left.magnitudeBits < infinityBits) : left.next.value = left.next.magnitude := by
  simp only [value, signBit_next bound, Bool.false_eq_true, ↓reduceIte]

/-- Two doubles that are not negative are not both nearest: a neighbour of the smaller one lies
between them, and is nearer unless it is the larger one, but then one of the two is odd. -/
theorem Nearest.not_lt (first : Nearest integer left) (second : Nearest integer right)
    (notNegative : 0 ≤ left.value) : ¬left.value < right.value := by
  intro less
  have leftValue := value_eq_magnitude notNegative
  have rightValue : right.value = right.magnitude := value_eq_magnitude (by omega)
  have finite : right.magnitudeBits < infinityBits := of_decide_eq_true second.finite
  have above : left.magnitudeBits < right.magnitudeBits := by
    apply Nat.lt_of_not_le
    rw [← magnitude_le_iff]
    omega
  have bound := Nat.lt_trans above finite
  have bits := magnitudeBits_next bound
  have nextValue := value_next bound
  have nextAbove : left.magnitude < left.next.magnitude := magnitude_lt_magnitude (by omega)
  have nextBelow : left.next.magnitude ≤ right.magnitude := magnitude_le_iff.mpr (by omega)
  have tie : left.distance integer = right.distance integer :=
    Nat.le_antisymm (first.closest right second.finite) (second.closest left first.finite)
  have nearer := first.closest left.next (decide_eq_true (by omega))
  have same : right.magnitude ≤ left.next.magnitude := by
    unfold distance at tie nearer
    omega
  have neighbour := magnitude_le_iff.mp same
  have leftEven := first.even right second.finite tie.symm (by omega)
  have rightEven := second.even left first.finite tie (by omega)
  omega

theorem value_zero : zero.value = 0 := by decide

private theorem Nearest.value_eq (first : Nearest integer left) (second : Nearest integer right) :
    left.value = right.value := by
  have mirrored {left right : Double} (first : Nearest integer left) (second : Nearest integer right)
      (notPositive : right.value ≤ 0) : ¬left.value < right.value := by
    intro less
    have leftMirror := value_negate left
    have rightMirror := value_negate right
    exact second.negate.not_lt first.negate (by omega) (by omega)
  have notLess {left right : Double} (first : Nearest integer left) (second : Nearest integer right) :
      ¬left.value < right.value := by
    intro less
    by_cases notNegative : 0 ≤ left.value
    · exact first.not_lt second notNegative less
    · by_cases notPositive : right.value ≤ 0
      · exact mirrored first second notPositive less
      · have leftNearer := first.closest zero (by decide)
        have rightNearer := second.closest zero (by decide)
        unfold distance at leftNearer rightNearer
        rw [value_zero] at leftNearer rightNearer
        omega
  exact Int.le_antisymm (Int.not_lt.mp (notLess second first)) (Int.not_lt.mp (notLess first second))

end Uniqueness

section Integers

variable {natural : Nat}

private theorem log2_bounds (positive : 0 < natural) :
    2 ^ natural.log2 ≤ natural ∧ natural < 2 ^ natural.log2 * 2 := by
  rw [← Nat.pow_succ]
  exact ⟨Nat.log2_self_le (by omega), Nat.lt_log2_self⟩

private theorem unitExponent_natural (positive : 0 < natural) :
    unitExponent natural 1 = (natural.log2 : Int) - 52 := by
  obtain ⟨least, _⟩ := log2_bounds positive
  have estimate : max ((natural.log2 : Int) - (1 : Nat).log2 - 53) (-1074) = (natural.log2 : Int) - 53 := by
    have one : (1 : Nat).log2 = 0 := rfl
    omega
  have powers : 0x20000000000000 * 2 ^ ((natural.log2 : Int) - 53).toNat =
      2 ^ natural.log2 * 2 ^ (-((natural.log2 : Int) - 53)).toNat := by
    rw [show 0x20000000000000 = 2 ^ 53 from rfl, ← Nat.pow_add, ← Nat.pow_add]
    congr 1
    omega
  have large : ¬natural * 2 ^ (-((natural.log2 : Int) - 53)).toNat /
      2 ^ ((natural.log2 : Int) - 53).toNat < 0x20000000000000 := by
    rw [Nat.div_lt_iff_lt_mul (Nat.two_pow_pos _), powers]
    exact Nat.not_lt_of_le (Nat.mul_le_mul_right _ least)
  simp only [unitExponent, estimate, inUnits, Nat.pow_eq, Nat.one_mul, large, ↓reduceIte]
  omega

/-- The place of the last significant bit of an integer, in units of the least positive double. -/
def place (natural : Nat) : Nat := natural.log2 + 1022

/-- The significant bits of an integer, rounded. -/
def significand (natural : Nat) : Nat := roundedQuotient (natural * unitsInOne) (2 ^ place natural)

private theorem place_bounds (positive : 0 < natural) :
    0x10000000000000 * 2 ^ place natural ≤ natural * unitsInOne ∧
      natural * unitsInOne < 0x20000000000000 * 2 ^ place natural := by
  obtain ⟨least, most⟩ := log2_bounds positive
  have exponent : 52 + place natural = natural.log2 + places := by
    unfold place places
    omega
  have powers : 0x10000000000000 * 2 ^ place natural = 2 ^ natural.log2 * unitsInOne := by
    rw [show 0x10000000000000 = 2 ^ 52 from rfl, ← Nat.pow_add, exponent, Nat.pow_add, unitsInOne]
  constructor
  · rw [powers]
    exact Nat.mul_le_mul_right _ least
  · calc
      _ < 2 ^ natural.log2 * 2 * unitsInOne := Nat.mul_lt_mul_of_pos_right most unitsInOne_pos
      _ = 2 * (0x10000000000000 * 2 ^ place natural) := by rw [powers, Nat.mul_comm _ 2, Nat.mul_assoc]
      _ = 0x20000000000000 * 2 ^ place natural := by rw [← Nat.mul_assoc]

theorem significand_bounds (positive : 0 < natural) :
    0x10000000000000 ≤ significand natural ∧ significand natural ≤ 0x20000000000000 := by
  obtain ⟨lower, upper⟩ := place_bounds positive
  obtain ⟨rounded, _⟩ := roundedQuotient_cases (natural * unitsInOne) (2 ^ place natural)
  have least := (Nat.le_div_iff_mul_le (Nat.two_pow_pos (place natural))).mpr lower
  have most := (Nat.div_lt_iff_lt_mul (Nat.two_pow_pos (place natural))).mpr upper
  unfold significand
  omega

private theorem significand_eq (natural : Nat) :
    roundedQuotient (natural * 2 ^ (-((natural.log2 : Int) - 52)).toNat)
      (2 ^ ((natural.log2 : Int) - 52).toNat) = significand natural := by
  obtain ⟨further, numerator⟩ : ∃ further, places = (-((natural.log2 : Int) - 52)).toNat + further :=
    Nat.exists_eq_add_of_le (by unfold places; omega)
  have denominator : place natural = ((natural.log2 : Int) - 52).toNat + further := by
    unfold place
    unfold places at numerator
    omega
  rw [significand, unitsInOne, numerator, denominator, Nat.pow_add, Nat.pow_add, ← Nat.mul_assoc,
    roundedQuotient_mul (Nat.two_pow_pos _)]

theorem pattern_lt (positive : 0 < natural) (bound : natural < 2 ^ 64) :
    place natural * 0x10000000000000 + significand natural < infinityBits := by
  have digits : natural.log2 < 64 := (Nat.log2_lt (by omega)).mpr bound
  obtain ⟨_, most⟩ := significand_bounds positive
  unfold place infinityBits
  omega

theorem toNat_ofNat (positive : 0 < natural) (bound : natural < 2 ^ 64) :
    (ofNat natural).bits.toNat = place natural * 0x10000000000000 + significand natural := by
  have nonzero : natural ≠ 0 := by omega
  have exponent : ((natural.log2 : Int) - 52 + 1074).toNat = place natural := by
    unfold place
    omega
  have small := pattern_lt positive bound
  have word : place natural * 0x10000000000000 + significand natural < 2 ^ 64 := by
    unfold infinityBits at small
    omega
  simp only [ofNat, ofRatio, nonzero, ↓reduceIte, unitExponent_natural positive, inUnits, Nat.pow_eq,
    Nat.one_mul, significand_eq, exponent, Nat.min_eq_left (Nat.le_of_lt small)]
  exact UInt64.toNat_ofNat_of_lt' word

private theorem magnitudeBits_ofNat (positive : 0 < natural) (bound : natural < 2 ^ 64) :
    (ofNat natural).magnitudeBits = place natural * 0x10000000000000 + significand natural := by
  have small := pattern_lt positive bound
  unfold infinityBits at small
  rw [magnitudeBits, toNat_ofNat positive bound]
  omega

private theorem signBit_ofNat (positive : 0 < natural) (bound : natural < 2 ^ 64) : (ofNat natural).signBit = false := by
  have small := pattern_lt positive bound
  unfold infinityBits at small
  rw [signBit, decide_eq_false_iff_not, UInt64.le_iff_toNat_le, toNat_ofNat positive bound]
  simp only [UInt64.reduceToNat]
  omega

theorem value_ofNat (positive : 0 < natural) (bound : natural < 2 ^ 64) :
    (ofNat natural).value = (significand natural * 2 ^ place natural : Nat) := by
  obtain ⟨least, most⟩ := significand_bounds positive
  rw [value, signBit_ofNat positive bound, magnitude_of_pattern (magnitudeBits_ofNat positive bound) least most]
  rfl

/-- Where a double is not a multiple of a power of two, some multiple is nearer to all that is larger. -/
theorem exists_multiple (other : Double) {place size : Nat} (large : 0x10000000000000 * 2 ^ place ≤ size) :
    ∃ multiple, gap (multiple * 2 ^ place) size ≤ (other.value - size).natAbs ∧
      ((other.value - size).natAbs = gap (multiple * 2 ^ place) size →
        other.value = (multiple * 2 ^ place : Nat)) := by
  have positive : 0 < size := Nat.lt_of_lt_of_le (Nat.mul_pos (by decide) (Nat.two_pow_pos place)) large
  have signed : other.value = other.magnitude ∨ other.value = -other.magnitude := by
    unfold value
    split
    · exact Or.inr rfl
    · exact Or.inl rfl
  unfold gap
  rcases magnitude_cases other place with ⟨multiple, same⟩ | small
  · refine ⟨multiple, ?_⟩
    rw [← same]
    omega
  · refine ⟨0x10000000000000, ?_⟩
    omega

private theorem distance_zero (other : Double) : other.distance 0 = other.value.natAbs := by
  rw [distance, Int.zero_mul, Int.sub_zero]

private theorem nearest_zero : Nearest 0 zero := by
  refine ⟨by decide, fun other _ => ?_, fun _ _ _ _ => by decide⟩
  rw [distance_zero, value_zero]
  exact Nat.zero_le _

theorem distance_natural (other : Double) (natural : Nat) :
    other.distance natural = (other.value - (natural * unitsInOne : Nat)).natAbs := by
  rw [distance, Int.natCast_mul]

theorem distance_ofNat_le (positive : 0 < natural) (bound : natural < 2 ^ 64) (multiple : Nat) :
    (ofNat natural).distance natural ≤ gap (multiple * 2 ^ place natural) (natural * unitsInOne) := by
  rw [distance_natural, value_ofNat positive bound]
  exact (roundedQuotient_nearest (Nat.two_pow_pos _) multiple).1

private theorem nearest_ofNat (bound : natural < 2 ^ 64) : Nearest natural (ofNat natural) := by
  by_cases zero : natural = 0
  · rw [zero]
    exact nearest_zero
  · have positive : 0 < natural := by omega
    obtain ⟨large, _⟩ := place_bounds positive
    have own := value_ofNat positive bound
    have bits := magnitudeBits_ofNat positive bound
    refine ⟨?_, fun other _ => ?_, fun other _ tie different => ?_⟩
    · rw [isFinite, bits]
      exact decide_eq_true (pattern_lt positive bound)
    · obtain ⟨multiple, nearer, _⟩ := exists_multiple other large
      rw [distance_natural other]
      exact Nat.le_trans (distance_ofNat_le positive bound multiple) nearer
    · obtain ⟨multiple, nearer, equal⟩ := exists_multiple other large
      rw [← distance_natural, tie] at nearer equal
      have same := Nat.le_antisymm nearer (distance_ofNat_le positive bound multiple)
      rw [equal same.symm, own] at different
      rw [distance_natural, own] at same
      have multiples : multiple ≠ significand natural := fun equal => different (by rw [equal])
      have even : significand natural % 2 = 0 :=
        (roundedQuotient_nearest (Nat.two_pow_pos _) multiple).2 same multiples
      omega

private theorem exists_multiple_of_le (positive : 0 < natural) (small : natural ≤ 2 ^ 53) :
    ∃ multiple, multiple * 2 ^ place natural = natural * unitsInOne := by
  by_cases largest : natural = 2 ^ 53
  · have exponent : 52 + place natural = 53 + places := by
      rw [largest]
      decide
    refine ⟨2 ^ 52, ?_⟩
    rw [← Nat.pow_add, exponent, Nat.pow_add, largest, unitsInOne]
  · have digits : natural.log2 < 53 := (Nat.log2_lt (by omega)).mpr (by omega)
    obtain ⟨further, exponent⟩ : ∃ further, places = further + place natural :=
      ⟨52 - natural.log2, by unfold places place; omega⟩
    refine ⟨natural * 2 ^ further, ?_⟩
    rw [unitsInOne, exponent, Nat.pow_add, Nat.mul_assoc]

private theorem distance_ofNat_of_le (small : natural ≤ 2 ^ 53) : (ofNat natural).distance natural = 0 := by
  by_cases zero : natural = 0
  · have same : (ofNat natural).distance natural = Double.zero.distance 0 := by rw [zero]; rfl
    rw [same, distance_zero, value_zero]
    rfl
  · have positive : 0 < natural := by omega
    obtain ⟨multiple, same⟩ := exists_multiple_of_le positive small
    have closest := distance_ofNat_le positive (by omega) multiple
    rw [same, gap, Int.sub_self] at closest
    exact Nat.eq_zero_of_le_zero closest

end Integers

theorem ofInt_cases {motive : Int → Double → Prop} (integer : Int)
    (natural : motive integer.natAbs (ofNat integer.natAbs))
    (mirrored : motive (-integer.natAbs) (ofNat integer.natAbs).negate) : motive integer (ofInt integer) := by
  unfold ofInt
  split
  next negative =>
    have same : -(integer.natAbs : Int) = integer := by omega
    simpa only [same] using mirrored
  next notNegative =>
    have same : (integer.natAbs : Int) = integer := by omega
    simpa only [same] using natural

section Signed

variable {integer other : Int}

theorem nearest_ofInt (bound : integer.natAbs < 2 ^ 64) : Nearest integer (ofInt integer) :=
  ofInt_cases integer (nearest_ofNat bound) (nearest_ofNat bound).negate

private theorem distance_ofInt_of_le (small : integer.natAbs ≤ 2 ^ 53) : (ofInt integer).distance integer = 0 := by
  refine ofInt_cases (motive := fun integer number => number.distance integer = 0) integer
    (distance_ofNat_of_le small) ?_
  rw [distance_negate, Int.neg_neg, distance_ofNat_of_le small]

private theorem value_ofInt_ne_zero (bound : integer.natAbs < 2 ^ 64) (nonzero : integer ≠ 0) :
    (ofInt integer).value ≠ 0 := by
  have positive : 0 < integer.natAbs := by omega
  have value := value_ofNat positive bound
  have least := (significand_bounds positive).1
  have size : 0 < significand integer.natAbs * 2 ^ place integer.natAbs :=
    Nat.mul_pos (by omega) (Nat.two_pow_pos _)
  refine ofInt_cases (motive := fun _ number => number.value ≠ 0) integer ?_ ?_
  · omega
  · rw [value_negate]
    omega

private theorem eq_of_value_eq {left right : Double} (same : left.value = right.value) (nonzero : left.value ≠ 0) :
    left = right := by
  have sign : left.signBit = right.signBit := by
    unfold value at same nonzero
    cases leftSign : left.signBit <;> cases rightSign : right.signBit
    case false.false | true.true => rfl
    all_goals
      simp only [leftSign, rightSign, Bool.false_eq_true, ↓reduceIte] at same nonzero
      omega
  have magnitude : left.magnitude = right.magnitude := by
    unfold value at same
    rw [sign] at same
    split at same <;> omega
  have pattern : left.magnitudeBits = right.magnitudeBits :=
    Nat.le_antisymm (magnitude_le_iff.mp (Nat.le_of_eq magnitude))
      (magnitude_le_iff.mp (Nat.le_of_eq magnitude.symm))
  have bits : left.bits.toNat = right.bits.toNat := by rw [toNat_eq, toNat_eq, sign, pattern]
  exact congrArg Double.mk (UInt64.toNat_inj.mp bits)

/-- Integers become one double if and only if some double is nearest to both. -/
theorem ofInt_eq_iff (bound : integer.natAbs < 2 ^ 64) (otherBound : other.natAbs < 2 ^ 64) :
    ofInt integer = ofInt other ↔ ∃ number, Nearest integer number ∧ Nearest other number := by
  constructor
  · intro same
    refine ⟨ofInt integer, nearest_ofInt bound, ?_⟩
    rw [same]
    exact nearest_ofInt otherBound
  · rintro ⟨number, nearest, otherNearest⟩
    have values : (ofInt integer).value = (ofInt other).value :=
      ((nearest_ofInt bound).value_eq nearest).trans (otherNearest.value_eq (nearest_ofInt otherBound))
    by_cases zero : (ofInt integer).value = 0
    · have first : integer = 0 := Classical.not_not.mp fun nonzero => value_ofInt_ne_zero bound nonzero zero
      have second : other = 0 := Classical.not_not.mp fun nonzero =>
        value_ofInt_ne_zero otherBound nonzero (values.symm.trans zero)
      rw [first, second]
    · exact eq_of_value_eq values zero

theorem ofInt_inj_of_le (small : integer.natAbs ≤ 2 ^ 53) (otherSmall : other.natAbs ≤ 2 ^ 53)
    (same : ofInt integer = ofInt other) : integer = other := by
  have first := distance_ofInt_of_le small
  have second := distance_ofInt_of_le otherSmall
  rw [same] at first
  unfold distance at first second
  have units : integer * unitsInOne = other * unitsInOne := by omega
  exact Int.eq_of_mul_eq_mul_right (Int.ofNat_ne_zero.mpr (Nat.ne_of_gt unitsInOne_pos)) units

end Signed

end NicFlow.Double
