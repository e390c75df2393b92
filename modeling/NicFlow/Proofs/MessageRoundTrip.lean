import NicFlow.Proofs.WireReading

/-! A message comes back from its binary form. Each field of the form is merged into a value that has
its default there, so after the last field the value is the one that was written. -/

namespace NicFlow.Wire

/-- Field numbers leave three of 32 bits to the wire type. -/
def numberLimit : Nat := 0x20000000

mutual

/-- Messages in the field nest at most `depth` deep. -/
def Kind.fits : Kind → (depth : Nat) → Bool
  | .message _ fields, depth => 0 < depth && fields.fits 1 (depth - 1)
  | .messages _ fields, depth => 0 < depth && fields.fits 1 (depth - 1)
  | _, _ => true

/-- Fields of which the first has the given number can all be numbered, and nest at most `depth` deep. -/
def Fields.fits : Fields → (number depth : Nat) → Bool
  | .nil, _, _ => true
  | .cons _ kind rest, number, depth => number < numberLimit && kind.fits depth && rest.fits (number + 1) depth

end

section Placement

variable {α : Type} {depth : Nat} {mergeAt : Nat → WireType → α → Bytes → Option (Decoding (α × Bytes))}

/-- What is read for the kind at a position goes to one place of a larger value. -/
def Kind.Placed (kind : Kind) (depth : Nat)
    (mergeAt : Nat → WireType → α → Bytes → Option (Decoding (α × Bytes))) (position : Nat)
    (put : kind.Value → α) : Prop :=
  ∀ type value bytes merged rest, kind.merge depth type value bytes = .ok (merged, rest) →
    mergeAt position type (put value) bytes = some (.ok (put merged, rest))

/-- What is read for the fields from a position on goes to one place of a larger value. -/
def Fields.Placed (fields : Fields) (name : String) (depth : Nat)
    (mergeAt : Nat → WireType → α → Bytes → Option (Decoding (α × Bytes))) (offset : Nat)
    (put : fields.Value → α) : Prop :=
  ∀ position type value bytes merged rest,
    fields.mergeAt name depth position type value bytes = some (.ok (merged, rest)) →
    mergeAt (offset + position) type (put value) bytes = some (.ok (put merged, rest))

theorem Fields.placed_self (fields : Fields) (name : String) (depth : Nat) :
    fields.Placed name depth (fields.mergeAt name depth) 0 id := by
  intro position type value bytes merged rest read
  rw [Nat.zero_add]
  exact read

section

variable {name field : String} {kind : Kind} {others : Fields} {offset : Nat}
  {put : (Fields.cons field kind others).Value → α}

theorem Fields.Placed.head (placed : (Fields.cons field kind others).Placed name depth mergeAt offset put)
    (values : others.Value) : kind.Placed depth mergeAt offset fun value => put (value, values) := by
  intro type value bytes merged rest read
  apply placed 0
  simp only [Fields.mergeAt, read]

theorem Fields.Placed.tail (placed : (Fields.cons field kind others).Placed name depth mergeAt offset put)
    (value : kind.Value) :
    others.Placed name depth mergeAt (offset + 1) fun values => put (value, values) := by
  intro position type values bytes merged rest read
  rw [Nat.add_assoc, Nat.add_comm 1]
  apply placed (position + 1)
  simp only [Fields.mergeAt, read]

end

theorem Kind.Placed.reads {kind : Kind} {position : Nat} {put : kind.Value → α}
    (placed : kind.Placed depth mergeAt position put) (numbered : position + 1 < numberLimit)
    {type : WireType} {before after : kind.Value} {content : Bytes}
    (merge : ∀ rest, kind.merge depth type before (content ++ rest) = .ok (after, rest)) :
    Reads (mergeField depth mergeAt) (put before) (key (position + 1) type ++ content) (put after) := by
  apply Reads.single
  · exact List.append_ne_nil_of_left_ne_nil (varint_ne_nil _) _
  · intro rest
    have positive : 0 < position + 1 := Nat.succ_pos position
    have merged := placed type before (content ++ rest) after rest (merge rest)
    rw [List.append_assoc, mergeField, readKey_key positive numbered]
    simp only [Bind.bind, Except.bind, Nat.add_sub_cancel, merged]

end Placement

section Contents

variable {depth : Nat} {rest : Bytes}

private theorem merge_uint32 (before value : UInt32) :
    Kind.merge depth .uint32 .varint before (varint value.toNat ++ rest) = .ok (value, rest) := by
  have small : value.toNat < 0x10000000000000000 := Nat.lt_trans value.toNat_lt (by decide)
  simp only [Kind.merge, expectType_self, readVarint_varint small, Bind.bind, Except.bind,
    UInt32.ofNat_toNat]
  rfl

private theorem merge_uint64 (before value : UInt64) :
    Kind.merge depth .uint64 .varint before (varint value.toNat ++ rest) = .ok (value, rest) := by
  have small : value.toNat < 0x10000000000000000 := value.toNat_lt
  simp only [Kind.merge, expectType_self, readVarint_varint small, Bind.bind, Except.bind,
    UInt64.ofNat_toNat]
  rfl

private theorem merge_int32 (before value : Int32) :
    Kind.merge depth .int32 .varint before (signedVarint value ++ rest) = .ok (value, rest) := by
  obtain ⟨word, read, same⟩ := readVarint_signedVarint value rest
  simp only [Kind.merge, expectType_self, read, Bind.bind, Except.bind, same]
  rfl

private theorem merge_bytes (before : Bytes) {value : Bytes} (small : value.length < lengthLimit) :
    Kind.merge depth .bytes .lengthDelimited before (delimited value ++ rest) = .ok (value, rest) := by
  simp only [Kind.merge, expectType_self]
  exact readDelimited_delimited small rest

private theorem merge_string (before : String) {value : String} (small : (utf8 value).length < lengthLimit) :
    Kind.merge depth .string .lengthDelimited before (delimited (utf8 value) ++ rest) = .ok (value, rest) := by
  simp only [Kind.merge, expectType_self]
  exact readText_delimited small rest

private theorem reads_words {step : List UInt32 → Bytes → Decoding (List UInt32 × Bytes)}
    (appends : ∀ before word rest, step before (varint word.toNat ++ rest) = .ok (before ++ [word], rest))
    (before words : List UInt32) :
    Reads step before (words.flatMap fun word => varint word.toNat) (before ++ words) := by
  induction words generalizing before with
  | nil =>
    rw [List.append_nil]
    exact .done
  | cons word words ih =>
    have others := ih (before ++ [word])
    rw [List.append_assoc, List.singleton_append] at others
    exact .next (varint_ne_nil _) (appends before word) others

private theorem merge_words {words : List UInt32}
    (small : (words.flatMap fun word => varint word.toNat).length < lengthLimit) :
    Kind.merge depth .words .lengthDelimited ([] : List UInt32)
      (delimited (words.flatMap fun word => varint word.toNat) ++ rest) = .ok (words, rest) := by
  simp only [Kind.merge]
  refine (reads_words ?_ [] words).repeatDelimited small rest
  intro before word rest
  have small : word.toNat < 0x10000000000000000 := Nat.lt_trans word.toNat_lt (by decide)
  rw [readVarint_varint small]
  simp only [Bind.bind, Except.bind, UInt32.ofNat_toNat]
  rfl

variable {name : String} {fields : Fields} {content : Bytes} {value : fields.Value}

private theorem merge_message (deep : ¬ depth = 0) {before : Option fields.Value}
    (reads : Reads (mergeField (depth - 1) (fields.mergeAt name (depth - 1)))
      (before.getD fields.default) content value)
    (small : content.length < lengthLimit) :
    Kind.merge depth (.message name fields) .lengthDelimited before (delimited content ++ rest) =
      .ok (some value, rest) := by
  have read := reads.repeatDelimited small rest
  simp only [Kind.merge, expectType_self, Bind.bind, Except.bind, deep, if_false, read]
  rfl

private theorem merge_messages (deep : ¬ depth = 0) (before : List fields.Value)
    (reads : Reads (mergeField (depth - 1) (fields.mergeAt name (depth - 1))) fields.default content value)
    (small : content.length < lengthLimit) :
    Kind.merge depth (.messages name fields) .lengthDelimited before (delimited content ++ rest) =
      .ok (before ++ [value], rest) := by
  have read := reads.repeatDelimited small rest
  simp only [Kind.merge, expectType_self, Bind.bind, Except.bind, deep, if_false, read]
  rfl

end Contents

theorem length_delimited_le (content : Bytes) : content.length ≤ (delimited content).length := by
  rw [delimited, List.length_append]
  exact Nat.le_add_left _ _

theorem small_of_field {number : Nat} {type : WireType} {content : Bytes}
    (small : (key number type ++ delimited content).length < lengthLimit) :
    content.length < lengthLimit := by
  have inner := length_delimited_le content
  rw [List.length_append] at small
  omega

theorem reads_unless {α β : Type} {step : α → Bytes → Decoding (α × Bytes)} {condition : Prop}
    {_ : Decidable condition} {put : β → α} {default value : β} {content : Bytes}
    (small : (if condition then [] else content).length < lengthLimit)
    (absent : condition → value = default)
    (present : content.length < lengthLimit → Reads step (put default) content (put value)) :
    Reads step (put default) (if condition then [] else content) (put value) := by
  by_cases leftOut : condition
  · rw [if_pos leftOut, absent leftOut]
    exact .done
  · rw [if_neg leftOut] at small ⊢
    exact present small

mutual

theorem Kind.reads_encode {α : Type} {depth : Nat}
    {mergeAt : Nat → WireType → α → Bytes → Option (Decoding (α × Bytes))} (kind : Kind)
    (fits : kind.fits depth = true) {position : Nat} (numbered : position + 1 < numberLimit)
    {put : kind.Value → α} (placed : kind.Placed depth mergeAt position put) (value : kind.Value)
    (small : (kind.encode (position + 1) value).length < lengthLimit) :
    Reads (mergeField depth mergeAt) (put kind.default) (kind.encode (position + 1) value) (put value) := by
  cases kind with
  | uint32 =>
    simp only [Kind.encode] at small ⊢
    exact reads_unless small id fun _ => placed.reads numbered fun rest => merge_uint32 _ value
  | uint64 =>
    simp only [Kind.encode] at small ⊢
    exact reads_unless small id fun _ => placed.reads numbered fun rest => merge_uint64 _ value
  | int32 =>
    simp only [Kind.encode] at small ⊢
    exact reads_unless small id fun _ => placed.reads numbered fun rest => merge_int32 _ value
  | bytes =>
    simp only [Kind.encode] at small ⊢
    refine reads_unless small List.isEmpty_iff.mp fun small => ?_
    exact placed.reads numbered fun rest => merge_bytes _ (small_of_field small)
  | string =>
    simp only [Kind.encode] at small ⊢
    refine reads_unless small String.isEmpty_iff.mp fun small => ?_
    exact placed.reads numbered fun rest => merge_string _ (small_of_field small)
  | words =>
    simp only [Kind.encode] at small ⊢
    refine reads_unless small List.isEmpty_iff.mp fun small => ?_
    exact placed.reads numbered fun rest => merge_words (small_of_field small)
  | message name fields =>
    simp only [Kind.fits, Bool.and_eq_true, decide_eq_true_eq] at fits
    obtain ⟨deep, inner⟩ := fits
    cases value with
    | none =>
      simp only [Kind.encode]
      exact .done
    | some value =>
      simp only [Kind.encode] at small ⊢
      have content := small_of_field small
      have reads := fields.reads_encode inner (fields.placed_self name (depth - 1)) value content
      exact placed.reads numbered fun rest => merge_message (Nat.ne_of_gt deep) reads content
  | messages name fields =>
    simp only [Kind.fits, Bool.and_eq_true, decide_eq_true_eq] at fits
    obtain ⟨deep, inner⟩ := fits
    have all (values before : List fields.Value)
        (small : ((Kind.messages name fields).encode (position + 1) values).length < lengthLimit) :
        Reads (mergeField depth mergeAt) (put before)
          ((Kind.messages name fields).encode (position + 1) values) (put (before ++ values)) := by
      induction values generalizing before with
      | nil =>
        rw [List.append_nil]
        simp only [Kind.encode]
        exact .done
      | cons value values ih =>
        simp only [Kind.encode, List.flatMap_cons] at small ih ⊢
        rw [List.length_append] at small
        have content := small_of_field (Nat.lt_of_le_of_lt (Nat.le_add_right _ _) small)
        have reads := fields.reads_encode inner (fields.placed_self name (depth - 1)) value content
        have first := placed.reads numbered fun _ =>
          merge_messages (Nat.ne_of_gt deep) before reads content
        have others := ih (before ++ [value]) (Nat.lt_of_le_of_lt (Nat.le_add_left _ _) small)
        rw [List.append_assoc, List.singleton_append] at others
        exact first.append others
    exact all value [] small

theorem Fields.reads_encode {α : Type} {depth : Nat}
    {mergeAt : Nat → WireType → α → Bytes → Option (Decoding (α × Bytes))} (fields : Fields)
    {offset : Nat} (fits : fields.fits (offset + 1) depth = true) {name : String}
    {put : fields.Value → α} (placed : fields.Placed name depth mergeAt offset put)
    (value : fields.Value) (small : (fields.encodeFrom (offset + 1) value).length < lengthLimit) :
    Reads (mergeField depth mergeAt) (put fields.default) (fields.encodeFrom (offset + 1) value)
      (put value) := by
  cases fields with
  | nil => exact .done
  | cons field kind others =>
    obtain ⟨value, values⟩ := value
    simp only [Fields.fits, Bool.and_eq_true, decide_eq_true_eq] at fits
    obtain ⟨⟨numbered, kindFits⟩, othersFit⟩ := fits
    simp only [Fields.encodeFrom, List.length_append] at small ⊢
    have first := kind.reads_encode kindFits numbered (placed.head others.default) value (by omega)
    have rest := others.reads_encode othersFit (placed.tail value) values (by omega)
    exact first.append rest

end

/-- Every message that can be numbered and does not nest too deep comes back from its binary form. -/
theorem Fields.decode_encode {fields : Fields} (fits : fields.fits 1 depthLimit = true) (name : String)
    {value : fields.Value} (small : (fields.encode value).length < lengthLimit) :
    fields.decode name (fields.encode value) = .ok value :=
  (fields.reads_encode fits (fields.placed_self name depthLimit) value small).repeatAll

end NicFlow.Wire
