import NicFlow.Proofs.WireReading
import NicFlow.Wire.Tree

/-! Different trees have different binary forms, however deep they are. Numbers and delimited contents
can be told from the bytes after them, so a form is taken apart from its front. -/

namespace NicFlow.Wire

section Fronts

variable {first second : Bytes}

theorem varint_append_inj {left right : Nat}
    (same : varint left ++ first = varint right ++ second) : left = right ∧ first = second := by
  induction left using Nat.strongRecOn generalizing right with
  | ind left ih =>
    have last {value : Nat} (small : value < 128) : (UInt8.ofNat value).toNat = value :=
      toNat_of_lt (by omega)
    have continued (value : Nat) : (UInt8.ofNat (value % 128 + 128)).toNat = value % 128 + 128 :=
      toNat_of_lt (by omega)
    by_cases leftEnds : left < 128 <;> by_cases rightEnds : right < 128
    · rw [varint_small leftEnds, varint_small rightEnds] at same
      obtain ⟨byte, rest⟩ := List.cons.inj same
      have number := congrArg UInt8.toNat byte
      rw [last leftEnds, last rightEnds] at number
      exact ⟨number, rest⟩
    · rw [varint_small leftEnds, varint_large rightEnds] at same
      have number := congrArg UInt8.toNat (List.cons.inj same).1
      rw [last leftEnds, continued] at number
      omega
    · rw [varint_large leftEnds, varint_small rightEnds] at same
      have number := congrArg UInt8.toNat (List.cons.inj same).1
      rw [last rightEnds, continued] at number
      omega
    · rw [varint_large leftEnds, varint_large rightEnds] at same
      obtain ⟨byte, rest⟩ := List.cons.inj same
      have low := congrArg UInt8.toNat byte
      rw [continued, continued] at low
      obtain ⟨high, rest⟩ := ih (left / 128) (by omega) rest
      exact ⟨by omega, rest⟩

theorem key_append_inj {left right : Nat} {leftType rightType : WireType}
    (same : key left leftType ++ first = key right rightType ++ second) :
    left = right ∧ first = second := by
  obtain ⟨number, rest⟩ := varint_append_inj same
  have leftCode := leftType.code_lt
  have rightCode := rightType.code_lt
  exact ⟨by omega, rest⟩

theorem delimited_append_inj {left right : Bytes}
    (same : delimited left ++ first = delimited right ++ second) : left = right ∧ first = second := by
  simp only [delimited, List.append_assoc] at same
  obtain ⟨length, rest⟩ := varint_append_inj same
  exact List.append_inj rest length

theorem delimited_inj {left right : Bytes} (same : delimited left = delimited right) : left = right := by
  have both : delimited left ++ [] = delimited right ++ [] := by rw [same]
  exact (delimited_append_inj both).1

end Fronts

private theorem utf8_inj {left right : String} (same : utf8 left = utf8 right) : left = right := by
  apply String.toByteArray_inj.mp
  exact ByteArray.ext (Array.toList_inj.mp same)

private theorem signedVarint_inj {left right : Int32} (same : signedVarint left = signedVarint right) :
    left = right := by
  obtain ⟨leftWord, leftRead, leftSame⟩ := readVarint_signedVarint left []
  obtain ⟨rightWord, rightRead, rightSame⟩ := readVarint_signedVarint right []
  rw [same, rightRead] at leftRead
  cases leftRead
  exact leftSame.symm.trans rightSame

private theorem varint_inj {left right : Nat} (same : varint left = varint right) : left = right := by
  have both : varint left ++ [] = varint right ++ [] := by rw [same]
  exact (varint_append_inj both).1

namespace Tree

private theorem doubleOfBytes_doubleBytes (value : Double) : doubleOfBytes (doubleBytes value) = value := by
  obtain ⟨bits⟩ := value
  have bound := bits.toNat_lt
  have indices : List.range 8 = [0, 1, 2, 3, 4, 5, 6, 7] := rfl
  have sum : (doubleBytes ⟨bits⟩).foldr (fun byte value => byte.toNat + 256 * value) 0 = bits.toNat := by
    simp only [doubleBytes, indices, List.map_cons, List.map_nil, List.foldr_cons, List.foldr_nil,
      UInt8.toNat_ofNat', Nat.pow_eq, Nat.reducePow]
    omega
  rw [doubleOfBytes, sum, UInt64.ofNat_toNat]

private theorem doubleBytes_inj {left right : Double} (same : doubleBytes left = doubleBytes right) :
    left = right := by
  rw [← doubleOfBytes_doubleBytes left, same, doubleOfBytes_doubleBytes]

/-- The number under which a tree is written, zero if it is unset. -/
def member : Tree → Nat
  | .unset => 0
  | .null _ => 1
  | .number _ => 2
  | .string _ => 3
  | .bool _ => 4
  | .struct _ => 5
  | .list _ => 6

theorem encode_front {tree : Tree} (set : tree.member ≠ 0) :
    ∃ type content, tree.encode = key tree.member type ++ content := by
  cases tree with
  | unset => exact absurd rfl set
  | null code => exact ⟨_, _, rfl⟩
  | number value => exact ⟨_, _, rfl⟩
  | string value => exact ⟨_, _, rfl⟩
  | bool value => exact ⟨_, _, rfl⟩
  | struct fields => exact ⟨_, _, rfl⟩
  | list elements => exact ⟨_, _, rfl⟩

theorem member_eq_zero_iff {tree : Tree} : tree.member = 0 ↔ tree.encode = [] := by
  constructor
  · intro unset
    cases tree <;> cases unset
    rfl
  · intro empty
    apply Classical.byContradiction
    intro set
    obtain ⟨type, content, written⟩ := encode_front set
    rw [empty] at written
    exact List.append_ne_nil_of_left_ne_nil (varint_ne_nil _) _ written.symm

private theorem member_of_encode {left right : Tree} (same : left.encode = right.encode) :
    left.member = right.member := by
  by_cases unset : left.member = 0
  · rw [unset, eq_comm, member_eq_zero_iff, ← same]
    exact member_eq_zero_iff.mp unset
  · have set : right.member ≠ 0 := by
      rwa [ne_eq, member_eq_zero_iff, ← same, ← member_eq_zero_iff]
    obtain ⟨_, _, leftWritten⟩ := encode_front unset
    obtain ⟨_, _, rightWritten⟩ := encode_front set
    rw [leftWritten, rightWritten] at same
    exact (key_append_inj same).1

/-- What is written of the name of an entry. -/
def namePart (name : String) : Bytes :=
  if name.isEmpty then [] else key 1 .lengthDelimited ++ delimited (utf8 name)

/-- What is written of the value of an entry. -/
def valuePart (value : Tree) : Bytes :=
  if value.member = 0 then [] else key 2 .lengthDelimited ++ delimited value.encode

theorem encodeStruct_cons (name : String) (value : Tree) (rest : Struct) :
    encodeStruct ((name, value) :: rest) =
      key 1 .lengthDelimited ++ (delimited (namePart name ++ valuePart value) ++ encodeStruct rest) := by
  cases value <;> simp only [encodeStruct, List.append_assoc] <;> rfl

theorem encodeElements_cons (element : Tree) (rest : List Tree) :
    encodeElements (element :: rest) =
      key 1 .lengthDelimited ++ (delimited element.encode ++ encodeElements rest) := by
  rw [encodeElements, List.append_assoc]

theorem key_ne_nil {number : Nat} {type : WireType} {rest : Bytes} : key number type ++ rest ≠ [] :=
  List.append_ne_nil_of_left_ne_nil (varint_ne_nil _) _

private theorem valuePart_inj {left right : Tree} (same : valuePart left = valuePart right) :
    left.encode = right.encode := by
  unfold valuePart at same
  split at same <;> split at same
  next leftUnset rightUnset => rw [member_eq_zero_iff.mp leftUnset, member_eq_zero_iff.mp rightUnset]
  next => exact absurd same.symm key_ne_nil
  next => exact absurd same key_ne_nil
  next => exact delimited_inj (key_append_inj same).2

private theorem name_ne_valuePart (content : Bytes) (value : Tree) :
    key 1 .lengthDelimited ++ content ≠ valuePart value := by
  unfold valuePart
  split
  · exact key_ne_nil
  · intro same
    cases (key_append_inj same).1

/-- The name of an entry and the form of its value can be told apart. -/
theorem entry_inj {leftName rightName : String} {left right : Tree}
    (same : namePart leftName ++ valuePart left = namePart rightName ++ valuePart right) :
    leftName = rightName ∧ left.encode = right.encode := by
  unfold namePart at same
  split at same <;> split at same
  next leftEmpty rightEmpty =>
    rw [String.isEmpty_iff.mp leftEmpty, String.isEmpty_iff.mp rightEmpty]
    exact ⟨rfl, valuePart_inj same⟩
  next =>
    rw [List.append_assoc] at same
    exact absurd same.symm (name_ne_valuePart _ _)
  next =>
    rw [List.append_assoc] at same
    exact absurd same (name_ne_valuePart _ _)
  next =>
    simp only [List.append_assoc] at same
    obtain ⟨name, value⟩ := delimited_append_inj (key_append_inj same).2
    exact ⟨utf8_inj name, valuePart_inj value⟩

mutual

theorem encode_inj {left right : Tree} (same : left.encode = right.encode) : left = right := by
  have member := member_of_encode same
  cases left <;> cases right <;> cases member
  case unset.unset => rfl
  all_goals
    simp only [encode] at same
    have content := (key_append_inj same).2
  case null.null left right => rw [signedVarint_inj content]
  case number.number left right => rw [doubleBytes_inj content]
  case string.string left right => rw [utf8_inj (delimited_inj content)]
  case bool.bool left right =>
    have number := varint_inj content
    cases left <;> cases right <;> first | rfl | cases number
  case struct.struct left right => rw [encodeStruct_inj (delimited_inj content)]
  case list.list left right => rw [encodeElements_inj (delimited_inj content)]

theorem encodeStruct_inj {left right : Struct} (same : encodeStruct left = encodeStruct right) :
    left = right := by
  match left, right with
  | [], [] => rfl
  | [], (name, value) :: rest =>
    rw [encodeStruct_cons] at same
    exact absurd same.symm key_ne_nil
  | (name, value) :: rest, [] =>
    rw [encodeStruct_cons] at same
    exact absurd same key_ne_nil
  | (leftName, left) :: leftRest, (rightName, right) :: rightRest =>
    rw [encodeStruct_cons, encodeStruct_cons] at same
    obtain ⟨entries, rest⟩ := delimited_append_inj (key_append_inj same).2
    obtain ⟨name, value⟩ := entry_inj entries
    rw [name, encode_inj value, encodeStruct_inj rest]

private theorem encodeElements_inj {left right : List Tree} (same : encodeElements left = encodeElements right) :
    left = right := by
  match left, right with
  | [], [] => rfl
  | [], element :: rest =>
    rw [encodeElements_cons] at same
    exact absurd same.symm key_ne_nil
  | element :: rest, [] =>
    rw [encodeElements_cons] at same
    exact absurd same key_ne_nil
  | left :: leftRest, right :: rightRest =>
    rw [encodeElements_cons, encodeElements_cons] at same
    obtain ⟨element, rest⟩ := delimited_append_inj (key_append_inj same).2
    rw [encode_inj element, encodeElements_inj rest]

end

end Tree

end NicFlow.Wire
