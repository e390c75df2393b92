import Mathlib.Tactic.Ring
import NicFlow.Proofs.HexTexts
import NicFlow.Proofs.StrictShapes

/-! The language of hardware addresses and their order. A text is an address exactly if it is the written form
of one up to the case of its letters. The number of an address is a numeral in base 256, so numbers are
compared as the octets are, one after the other; ranges of Ethernet addresses follow that order. -/

namespace NicFlow

open Text

namespace Mac

section Reading

variable {text : String} {mac : Mac}

theorem octet?_eq_some_iff {digits : List Char} {octet : UInt8} :
    octet? digits = some octet ↔ digits.map Char.toLower = hexDigits 2 octet.toNat := by
  unfold octet?
  constructor
  · intro read
    split at read
    next width =>
      obtain ⟨value, denoted, rfl⟩ := Option.map_eq_some_iff.mp read
      obtain ⟨lowered, small⟩ := ofHex?_eq_some_iff.mp denoted
      rw [width] at lowered small
      rw [lowered, UInt8.toNat_ofNat_of_lt' small]
    · cases read
  · intro lowered
    have width := congrArg List.length lowered
    rw [List.length_map, length_hexDigits] at width
    have small : octet.toNat < 16 ^ digits.length := by
      rw [width]
      exact octet.toNat_lt
    have denoted : Denotes digits octet.toNat := ⟨by rw [lowered, width], small⟩
    rw [if_pos width, ofHex?_eq_some_iff.mpr denoted, Option.map_some, UInt8.ofNat_toNat]

theorem mapM_octet?_iff {parts : List (List Char)} {octets : List UInt8} :
    parts.mapM octet? = some octets ↔
      parts.map (List.map Char.toLower) = octets.map fun octet => hexDigits 2 octet.toNat := by
  induction parts generalizing octets with
  | nil => cases octets <;> simp
  | cons part others ih =>
    rw [List.mapM_cons]
    simp only [Option.bind_eq_bind, Option.bind_eq_some_iff, Option.pure_def, Option.some.injEq,
      octet?_eq_some_iff, ih]
    cases octets with
    | nil => simp
    | cons octet octets => simp

theorem parse?_iff_mapM : parse? text = some mac ↔ (splitAll ':' text.toList).mapM octet? = some mac.octets := by
  rw [parse?, Option.bind_eq_bind, Option.bind_eq_some_iff]
  constructor
  · intro read
    obtain ⟨octets, found, built⟩ := read
    unfold ofOctets? at built
    split at built
    · cases built
      exact found
    · cases built
  · intro found
    exact ⟨mac.octets, found, dif_pos mac.length_octets⟩

theorem parse?_eq_some_iff : parse? text = some mac ↔ text.toLower = mac.render := by
  have given : mac.octets.map (fun octet => hexDigits 2 octet.toNat) ≠ [] := by
    intro empty
    have length := mac.length_octets
    rw [List.map_eq_nil_iff.mp empty] at length
    cases length
  have clean : ∀ part ∈ mac.octets.map (fun octet => hexDigits 2 octet.toNat), ':' ∉ part := by
    intro part member
    obtain ⟨octet, _, rfl⟩ := List.mem_map.mp member
    exact not_mem_hexDigits rfl _ _
  have lowered : text.toList.map Char.toLower = text.toLower.toList := (toList_toLower text).symm
  calc parse? text = some mac
      ↔ (splitAll ':' text.toList).map (List.map Char.toLower) =
          mac.octets.map fun octet => hexDigits 2 octet.toNat := parse?_iff_mapM.trans mapM_octet?_iff
    _ ↔ splitAll ':' text.toLower.toList = mac.octets.map fun octet => hexDigits 2 octet.toNat := by
        rw [← lowered, splitAll_toLower (by decide)]
    _ ↔ text.toLower.toList = mac.render.toList := by
        rw [splitAll_eq_iff given, toList_render]
        exact and_iff_left clean
    _ ↔ text.toLower = mac.render := String.toList_inj

private theorem exists_octet?_iff {group : List Char} : (∃ octet, octet? group = some octet) ↔
    group.length = 2 ∧ ∀ character ∈ group, IsHexDigit character := by
  unfold octet?
  rw [← exists_ofHex?_iff]
  split
  next width => simp [width]
  next other => simp [other]

private theorem exists_mapM_iff {parts : List (List Char)} : (∃ octets, parts.mapM octet? = some octets) ↔
    ∀ part ∈ parts, ∃ octet, octet? part = some octet := by
  induction parts with
  | nil => simp
  | cons part others ih =>
    rw [List.forall_mem_cons, ← ih, List.mapM_cons]
    simp only [Option.bind_eq_bind, Option.bind_eq_some_iff, Option.pure_def, Option.some.injEq]
    constructor
    · intro ⟨_, octet, first, octets, rest, _⟩
      exact ⟨⟨octet, first⟩, octets, rest⟩
    · intro ⟨⟨octet, first⟩, octets, rest⟩
      exact ⟨_, octet, first, octets, rest, rfl⟩

/-- The accepted language: six groups of two digits, joined by colons. -/
theorem exists_parse?_iff : (∃ mac, parse? text = some mac) ↔ ∃ groups : List (List Char),
    groups.length = 6 ∧ (∀ group ∈ groups, group.length = 2 ∧ ∀ character ∈ group, IsHexDigit character) ∧
    text.toList = [':'].intercalate groups := by
  constructor
  · intro ⟨mac, read⟩
    have found := parse?_iff_mapM.mp read
    have length := congrArg List.length (mapM_octet?_iff.mp found)
    rw [List.length_map, List.length_map, mac.length_octets] at length
    refine ⟨splitAll ':' text.toList, length, ?_, (intercalate_splitAll ':' text.toList).symm⟩
    intro group member
    exact exists_octet?_iff.mp (exists_mapM_iff.mp ⟨_, found⟩ group member)
  · intro ⟨groups, length, pairs, joined⟩
    have clean : ∀ group ∈ groups, ':' ∉ group := by
      intro group member inside
      have foreign : ¬ IsHexDigit ':' := by
        have none : ofHex? [':'] = none := rfl
        simpa using ofHex?_eq_none_iff.mp none
      exact foreign ((pairs group member).2 ':' inside)
    have given : groups ≠ [] := by
      intro empty
      rw [empty] at length
      cases length
    obtain ⟨octets, found⟩ := exists_mapM_iff.mpr fun group member => exists_octet?_iff.mpr (pairs group member)
    have kept := congrArg List.length (mapM_octet?_iff.mp found)
    rw [List.length_map, List.length_map, length] at kept
    refine ⟨⟨octets, kept.symm⟩, parse?_iff_mapM.mpr ?_⟩
    rw [(splitAll_eq_iff given).mpr ⟨joined, clean⟩, found]

end Reading

section Numbers

/-- The number of octets after octets of the given number. -/
def numberFrom (start : Nat) (octets : List UInt8) : Nat :=
  octets.foldl (fun value octet => value * 256 + octet.toNat) start

private theorem numberFrom_eq (start : Nat) (octets : List UInt8) :
    numberFrom start octets = start * 256 ^ octets.length + numberFrom 0 octets := by
  induction octets generalizing start with
  | nil => simp [numberFrom]
  | cons octet rest ih =>
    have step (before : Nat) : numberFrom before (octet :: rest) = numberFrom (before * 256 + octet.toNat) rest := rfl
    rw [step, step, ih, ih (0 * 256 + octet.toNat), List.length_cons, Nat.pow_succ]
    ring

theorem numberFrom_lt (octets : List UInt8) : numberFrom 0 octets < 256 ^ octets.length := by
  induction octets with
  | nil => exact Nat.one_pos
  | cons octet rest ih =>
    have small : octet.toNat + 1 ≤ 256 := octet.toNat_lt
    have step : numberFrom 0 (octet :: rest) = numberFrom (0 * 256 + octet.toNat) rest := rfl
    calc numberFrom 0 (octet :: rest) = octet.toNat * 256 ^ rest.length + numberFrom 0 rest := by
          rw [step, numberFrom_eq, Nat.zero_mul, Nat.zero_add]
      _ < octet.toNat * 256 ^ rest.length + 256 ^ rest.length := Nat.add_lt_add_left ih _
      _ = (octet.toNat + 1) * 256 ^ rest.length := (Nat.succ_mul _ _).symm
      _ ≤ 256 * 256 ^ rest.length := Nat.mul_le_mul_right _ small
      _ = 256 ^ (octet :: rest).length := by rw [List.length_cons, Nat.pow_succ, Nat.mul_comm]

private theorem numberFrom_cons (octet : UInt8) (rest : List UInt8) :
    numberFrom 0 (octet :: rest) = octet.toNat * 256 ^ rest.length + numberFrom 0 rest := by
  have step : numberFrom 0 (octet :: rest) = numberFrom (0 * 256 + octet.toNat) rest := rfl
  rw [step, numberFrom_eq, Nat.zero_mul, Nat.zero_add]

private theorem numberFrom_lt_iff {left right : List UInt8} (same : left.length = right.length) :
    numberFrom 0 left < numberFrom 0 right ↔ left < right := by
  induction left generalizing right with
  | nil =>
    cases right with
    | nil => exact iff_of_false (Nat.lt_irrefl _) (List.lt_irrefl [])
    | cons octet rest => cases same
  | cons leftOctet leftRest ih =>
    cases right with
    | nil => cases same
    | cons rightOctet rightRest =>
      have rest : leftRest.length = rightRest.length := Nat.succ.inj same
      have leftBound := numberFrom_lt leftRest
      have rightBound := numberFrom_lt rightRest
      rw [rest] at leftBound
      rw [numberFrom_cons, numberFrom_cons, rest, List.cons_lt_cons_iff, ← ih rest]
      rcases Nat.lt_trichotomy leftOctet.toNat rightOctet.toNat with below | equal | above
      · have gap := Nat.mul_le_mul_right (256 ^ rightRest.length) below
        rw [Nat.succ_mul] at gap
        exact iff_of_true (by omega) (Or.inl (UInt8.lt_iff_toNat_lt.mpr below))
      · have octet : leftOctet = rightOctet := UInt8.toNat.inj equal
        subst octet
        rw [Nat.add_lt_add_iff_left]
        constructor
        · intro less
          exact Or.inr ⟨rfl, less⟩
        · rintro (less | ⟨_, less⟩)
          · exact absurd less (UInt8.lt_irrefl leftOctet)
          · exact less
      · have gap := Nat.mul_le_mul_right (256 ^ rightRest.length) above
        rw [Nat.succ_mul] at gap
        refine iff_of_false (by omega) ?_
        rintro (less | ⟨rfl, _⟩)
        · exact absurd (UInt8.lt_iff_toNat_lt.mp less) (Nat.lt_asymm above)
        · exact absurd above (Nat.lt_irrefl _)

variable {left right : Mac}

theorem number_lt_iff : left.number < right.number ↔ left.octets < right.octets :=
  numberFrom_lt_iff (left.length_octets.trans right.length_octets.symm)

private theorem number_le_iff : left.number ≤ right.number ↔ left.octets ≤ right.octets := by
  rw [← Nat.not_lt, number_lt_iff]
  exact Iff.rfl

theorem number_inj (same : left.number = right.number) : left = right := by
  have notLess : ¬ left.octets < right.octets := by
    rw [← number_lt_iff, same]
    exact Nat.lt_irrefl _
  have notGreater : ¬ right.octets < left.octets := by
    rw [← number_lt_iff, same]
    exact Nat.lt_irrefl _
  have octets : left.octets = right.octets :=
    (inferInstance : Std.Trichotomous (· < · : List UInt8 → List UInt8 → Prop)).trichotomous _ _ notLess notGreater
  cases left
  cases right
  congr

private theorem number_lt (mac : Mac) : mac.number < 2 ^ 48 := by
  have bound := numberFrom_lt mac.octets
  rw [mac.length_octets] at bound
  exact bound

/-- The word that octets are shifted into, from the first to the last. -/
def shiftedWord (start : UInt64) (octets : List UInt8) : UInt64 :=
  octets.foldl (fun word octet => word <<< 8 ||| octet.toUInt64) start

private theorem toNat_shiftedWord {start : UInt64} {octets : List UInt8}
    (room : (start.toNat + 1) * 256 ^ octets.length ≤ UInt64.size) :
    (shiftedWord start octets).toNat = numberFrom start.toNat octets := by
  induction octets generalizing start with
  | nil => rfl
  | cons octet rest ih =>
    have small := octet.toNat_lt
    rw [List.length_cons, Nat.pow_succ] at room
    have next : (start.toNat * 256 + octet.toNat + 1) * 256 ^ rest.length ≤ UInt64.size :=
      calc (start.toNat * 256 + octet.toNat + 1) * 256 ^ rest.length
          ≤ (start.toNat + 1) * 256 * 256 ^ rest.length := Nat.mul_le_mul_right _ (by omega)
        _ = (start.toNat + 1) * (256 ^ rest.length * 256) := by ring
        _ ≤ UInt64.size := room
    have fits : start.toNat * 256 + octet.toNat < UInt64.size :=
      Nat.lt_of_lt_of_le (Nat.le_mul_of_pos_right _ (Nat.pow_pos (by decide))) next
    have shifted : (start <<< 8 ||| octet.toUInt64).toNat = start.toNat * 256 + octet.toNat := by
      have whole : start.toNat <<< 8 % 2 ^ 64 = start.toNat <<< 8 := by
        apply Nat.mod_eq_of_lt
        rw [Nat.shiftLeft_eq]
        exact Nat.lt_of_le_of_lt (Nat.le_add_right _ _) fits
      rw [UInt64.toNat_or, UInt64.toNat_shiftLeft, UInt8.toNat_toUInt64]
      show start.toNat <<< 8 % 2 ^ 64 ||| octet.toNat = _
      rw [whole, ← Nat.shiftLeft_add_eq_or_of_lt small, Nat.shiftLeft_eq]
    have step : shiftedWord start (octet :: rest) = shiftedWord (start <<< 8 ||| octet.toUInt64) rest := rfl
    rw [step, ih (by rwa [shifted]), shifted]
    rfl

private theorem toNat_shiftedWord_octets (mac : Mac) : (shiftedWord 0 mac.octets).toNat = mac.number := by
  apply toNat_shiftedWord
  rw [mac.length_octets]
  decide

end Numbers

section Ranges

open FieldRule Log Traced

/-- The address of zeros, which counts as none. -/
def unset : Mac := ⟨List.replicate 6 0, rfl⟩

private theorem number_eq_zero_iff {mac : Mac} : mac.number = 0 ↔ mac = unset := by
  have zero : unset.number = 0 := rfl
  rw [← zero]
  exact ⟨number_inj, congrArg number⟩

/-- An Ethernet payload with both addresses. -/
def ethernet (dst src : Mac) (type : UInt32) : ItemShape.eth.Value :=
  (some (dst.octets, ()), some (src.octets, ()), type, ())

/-- A range of addresses may begin with the one and end with the other. -/
def Reaches (first last : Mac) : Prop := (first = unset → last = unset) ∧ first.octets ≤ last.octets

private theorem allows_last_iff_reaches {first last : Mac} : Role.last.Allows first.number last.number ↔ first.Reaches last := by
  simp only [Role.Allows, Reaches, forall_const, number_eq_zero_iff, number_le_iff]

theorem addressNumber_octets (mac : Mac) : addressNumber (some mac.octets) = mac.number := by
  have built : ofOctets? mac.octets = some mac := dif_pos mac.length_octets
  simp only [addressNumber, Option.bind_some, built]

section Rule

variable {fields : Wire.Fields} {spec candidate : fields.Value} {field : String} {first last : Mac}

theorem check_range_ok_iff (starts : fields.bytes? spec [field, "addr_bytes"] = some first.octets)
    (ends : fields.bytes? candidate [field, "addr_bytes"] = some last.octets) :
    (FieldRule.address field).check fields spec candidate .last = .ok () ↔ first.Reaches last := by
  have given : ∀ bytes, some last.octets = some bytes → bytes.length = 6 := by
    intro bytes same
    rw [← Option.some.inj same, last.length_octets]
  rw [check_address_ok_iff, starts, ends, addressNumber_octets, addressNumber_octets, allows_last_iff_reaches]
  exact ⟨fun ⟨_, reaches⟩ => reaches nofun, fun reaches => ⟨given, fun _ => reaches⟩⟩

private theorem check_range_below_iff (starts : fields.bytes? spec [field, "addr_bytes"] = some first.octets)
    (ends : fields.bytes? candidate [field, "addr_bytes"] = some last.octets) {name : String} {low high : Nat} :
    (FieldRule.address field).check fields spec candidate .last = .error (.lastBelowSpec name low high) ↔
      name = field ∧ low = first.number ∧ high = last.number ∧ last.octets < first.octets := by
  rw [check_address_error_iff, starts, ends, addressNumber_octets, addressNumber_octets, ← number_lt_iff]
  constructor
  · rintro (⟨bytes, _, _, wrong⟩ | ⟨_, _, refuses⟩)
    · cases wrong
    · cases refuses with
      | below _ lower => exact ⟨rfl, rfl, rfl, lower⟩
  · rintro ⟨rfl, rfl, rfl, lower⟩
    refine Or.inr ⟨?_, nofun, .below rfl lower⟩
    intro bytes same
    rw [← Option.some.inj same, last.length_octets]

end Rule

variable {firstDst firstSrc lastDst lastSrc : Mac} {firstType lastType : UInt32}

private theorem check_ethernet_eq (spec candidate : ItemShape.eth.Value) (role : Role) :
    ItemShape.check .eth spec candidate role =
      (FieldRule.address "dst").check ItemShape.eth.message.fields spec candidate role >>= fun _ =>
      (FieldRule.address "src").check ItemShape.eth.message.fields spec candidate role >>= fun _ =>
      (FieldRule.number ["type"] (some 65535) .whenSet).check ItemShape.eth.message.fields spec candidate role := by
  have last (result : Except FieldError Unit) : (result >>= fun _ => Except.ok ()) = result := by
    cases result <;> rfl
  rw [← last ((FieldRule.number ["type"] (some 65535) .whenSet).check _ _ _ _)]
  rfl

private theorem check_ethernet_ok_iff :
    ItemShape.check .eth (ethernet firstDst firstSrc firstType) (ethernet lastDst lastSrc lastType) .last = .ok () ↔
      firstDst.Reaches lastDst ∧ firstSrc.Reaches lastSrc ∧
      (lastType = 0 ∨ firstType ≠ 0 ∧ firstType ≤ lastType ∧ lastType ≤ 65535) := by
  have types : ItemShape.eth.message.fields.number (ethernet firstDst firstSrc firstType) ["type"] = firstType.toNat ∧
      ItemShape.eth.message.fields.number (ethernet lastDst lastSrc lastType) ["type"] = lastType.toNat := ⟨rfl, rfl⟩
  rw [check_ethernet_eq, check_then_ok_iff, check_then_ok_iff, check_range_ok_iff rfl rfl, check_range_ok_iff rfl rfl,
    check_number_ok_iff, types.1, types.2]
  refine and_congr_right fun _ => and_congr_right fun _ => ?_
  simp only [CrossCheck.Applies, Role.Allows, Option.some.injEq, forall_eq', ne_eq, ← UInt32.toNat_inj,
    UInt32.le_iff_toNat_le, UInt32.toNat_ofNat]
  constructor
  · intro both
    obtain ⟨compared, small⟩ := both
    by_cases leftOpen : lastType.toNat = 0
    · exact Or.inl leftOpen
    · obtain ⟨given, above⟩ := compared ⟨by simp, leftOpen⟩
      exact Or.inr ⟨fun absent => leftOpen (given absent), above trivial, small⟩
  · rintro (absent | ⟨given, above, small⟩)
    · exact ⟨fun compared => absurd absent compared.2, by omega⟩
    · exact ⟨fun _ => ⟨fun absent => absurd absent given, fun _ => above⟩, small⟩

private theorem check_ethernet_below_iff :
    (ItemShape.check .eth (ethernet firstDst firstSrc firstType) (ethernet lastDst lastSrc lastType) .last =
      .error (.lastBelowSpec "dst" firstDst.number lastDst.number) ↔ lastDst.octets < firstDst.octets) ∧
    (ItemShape.check .eth (ethernet firstDst firstSrc firstType) (ethernet lastDst lastSrc lastType) .last =
      .error (.lastBelowSpec "src" firstSrc.number lastSrc.number) ↔
        firstDst.Reaches lastDst ∧ lastSrc.octets < firstSrc.octets) := by
  have otherwise (name : String) (low high : Nat) (other : name ≠ "type") :
      (FieldRule.number ["type"] (some 65535) .whenSet).check ItemShape.eth.message.fields
        (ethernet firstDst firstSrc firstType) (ethernet lastDst lastSrc lastType) .last ≠
        .error (.lastBelowSpec name low high) := by
    intro failed
    rcases check_number_error_iff.mp failed with ⟨_, refuses⟩ | ⟨_, max, _, _, wrong⟩
    · cases refuses with
      | below => exact other (by decide)
    · cases wrong
  have dstGiven (dst src : Mac) (type : UInt32) :
      ItemShape.eth.message.fields.bytes? (ethernet dst src type) ["dst", "addr_bytes"] = some dst.octets := rfl
  have srcGiven (dst src : Mac) (type : UInt32) :
      ItemShape.eth.message.fields.bytes? (ethernet dst src type) ["src", "addr_bytes"] = some src.octets := rfl
  rw [check_ethernet_eq]
  simp only [check_then_error_iff, check_range_below_iff (dstGiven _ _ _) (dstGiven _ _ _),
    check_range_below_iff (srcGiven _ _ _) (srcGiven _ _ _), check_range_ok_iff (dstGiven _ _ _) (dstGiven _ _ _)]
  constructor
  · simp [otherwise]
  · simp [otherwise]

end Ranges

/-- A text is read as an address exactly if it is, up to the case of its letters, the written form of that
address, and these texts are the six pairs of digits joined by colons; every other text is refused. The number
of an address is the word of 48 bits that its octets are shifted into; it tells addresses apart, and numbers
are ordered as the octets are, one after the other. Ranges of Ethernet addresses keep that order. -/
theorem mac_addresses_exact :
    (∀ text mac, parse? text = some mac ↔ text.toLower = mac.render) ∧
    (∀ text, parse? text = none ↔ ¬ ∃ groups : List (List Char), groups.length = 6 ∧
      (∀ group ∈ groups, group.length = 2 ∧ ∀ character ∈ group, IsHexDigit character) ∧
      text.toList = [':'].intercalate groups) ∧
    (∀ mac : Mac, mac.number < 2 ^ 48 ∧ (shiftedWord 0 mac.octets).toNat = mac.number) ∧
    (∀ left right : Mac, left.number = right.number → left = right) ∧
    (∀ left right : Mac, left.number ≤ right.number ↔ left.octets ≤ right.octets) ∧
    ∀ (firstDst firstSrc lastDst lastSrc : Mac) (firstType lastType : UInt32),
      let check := ItemShape.check .eth (ethernet firstDst firstSrc firstType)
        (ethernet lastDst lastSrc lastType) .last
      (check = .ok () ↔ firstDst.Reaches lastDst ∧ firstSrc.Reaches lastSrc ∧
        (lastType = 0 ∨ firstType ≠ 0 ∧ firstType ≤ lastType ∧ lastType ≤ 65535)) ∧
      (check = .error (.lastBelowSpec "dst" firstDst.number lastDst.number) ↔ lastDst.octets < firstDst.octets) ∧
      (check = .error (.lastBelowSpec "src" firstSrc.number lastSrc.number) ↔
        firstDst.Reaches lastDst ∧ lastSrc.octets < firstSrc.octets) := by
  refine ⟨fun text mac => parse?_eq_some_iff, ?_, fun mac => ⟨number_lt mac, toNat_shiftedWord_octets mac⟩,
    fun left right => number_inj, fun left right => number_le_iff, ?_⟩
  · intro text
    rw [← exists_parse?_iff, not_exists, Option.eq_none_iff_forall_ne_some]
  · intro firstDst firstSrc lastDst lastSrc firstType lastType
    exact ⟨check_ethernet_ok_iff, check_ethernet_below_iff⟩

/-- Capital letters are read, an octet of one digit is not, and a range of sources may not end below its
beginning in the last octet. -/
theorem mac_addresses_exact_capitals :
    parse? "00:00:5F:00:53:01" = some ⟨[0, 0, 0x5f, 0, 0x53, 1], rfl⟩ ∧ parse? "0:00:5f:00:53:01" = none ∧
      ItemShape.check .eth (ethernet unset ⟨[0, 0, 0x5f, 0, 0x53, 2], rfl⟩ 0)
        (ethernet unset ⟨[0, 0, 0x5f, 0, 0x53, 1], rfl⟩ 0) .last =
        .error (.lastBelowSpec "src" 0x5f005302 0x5f005301) := by
  obtain ⟨read, refused, _, _, _, ranges⟩ := mac_addresses_exact
  have lowered : "00:00:5F:00:53:01".toLower = render ⟨[0, 0, 0x5f, 0, 0x53, 1], rfl⟩ := by decide +kernel
  refine ⟨(read _ _).mpr lowered, (refused _).mpr ?_, (ranges unset _ unset _ 0 0).2.2.mpr ⟨⟨id, ?_⟩, by decide⟩⟩
  · rw [← exists_parse?_iff]
    intro ⟨mac, found⟩
    cases found
  · decide

end Mac

end NicFlow
