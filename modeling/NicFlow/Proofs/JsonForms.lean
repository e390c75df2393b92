import NicFlow.Proofs.RecordReading
import NicFlow.Wire.JsonForm

/-! Messages come back from their JSON form. Each field is taken over by itself, wherever the sorting of
names puts it, and nested messages come back because their own fields do. -/

namespace NicFlow.Wire

mutual

/-- The fields of every message in the field have different names. -/
def Kind.namedApart : Kind → Bool
  | .message _ fields => fields.namedApart
  | .messages _ fields => fields.namedApart
  | _ => true

def Fields.namedApart : Fields → Bool
  | .nil => true
  | .cons name kind rest => name ∉ rest.names && kind.namedApart && rest.namedApart

end

/-- The JSON form of the field at a position. -/
def Fields.form? : (fields : Fields) → (value : fields.Value) → (position : Nat) → Option Json
  | .nil, _, _ => none
  | .cons _ kind _, (value, _), 0 => some (kind.toJson value)
  | .cons _ _ rest, (_, values), position + 1 => rest.form? values position

/-- A message that takes the field at a position over from another one. -/
def Fields.take : (fields : Fields) → (value : fields.Value) → (position : Nat) → fields.Value → fields.Value
  | .nil, _, _, record => record
  | .cons _ _ _, (value, _), 0, (_, others) => (value, others)
  | .cons _ _ rest, (_, values), position + 1, (old, others) => (old, rest.take values position others)

private theorem Fields.take_comm (fields : Fields) (value : fields.Value) (left right : Nat) (record : fields.Value) :
    fields.take value left (fields.take value right record) =
      fields.take value right (fields.take value left record) := by
  cases fields with
  | nil => rfl
  | cons name kind rest =>
    obtain ⟨value, values⟩ := value
    obtain ⟨old, others⟩ := record
    cases left with
    | zero => cases right <;> rfl
    | succ left =>
      cases right with
      | zero => rfl
      | succ right => exact congrArg (Prod.mk old) (rest.take_comm values left right others)

private theorem Fields.take_take (fields : Fields) (value : fields.Value) (position : Nat) (record : fields.Value) :
    fields.take value position (fields.take value position record) = fields.take value position record := by
  cases fields with
  | nil => rfl
  | cons name kind rest =>
    obtain ⟨value, values⟩ := value
    obtain ⟨old, others⟩ := record
    cases position with
    | zero => rfl
    | succ position => exact congrArg (Prod.mk old) (rest.take_take values position others)

private theorem Fields.take_of_form?_eq_none {fields : Fields} {value : fields.Value} {position : Nat}
    (absent : fields.form? value position = none) (record : fields.Value) :
    fields.take value position record = record := by
  cases fields with
  | nil => rfl
  | cons name kind rest =>
    obtain ⟨value, values⟩ := value
    obtain ⟨old, others⟩ := record
    cases position with
    | zero => cases absent
    | succ position => exact congrArg (Prod.mk old) (rest.take_of_form?_eq_none absent others)

theorem Fields.eq_of_take {fields : Fields} {value record : fields.Value}
    (taken : ∀ position, fields.take value position record = record) : record = value := by
  cases fields with
  | nil => rfl
  | cons name kind rest =>
    obtain ⟨value, values⟩ := value
    obtain ⟨old, others⟩ := record
    have first : value = old := congrArg Prod.fst (taken 0)
    have later : others = values := eq_of_take fun position => congrArg Prod.snd (taken (position + 1))
    rw [first, later]

private theorem Fields.lt_of_form? {fields : Fields} {value : fields.Value} {position : Nat} {json : Json}
    (found : fields.form? value position = some json) : position < fields.names.length := by
  cases fields with
  | nil => cases found
  | cons name kind rest =>
    cases position with
    | zero => exact Nat.succ_pos _
    | succ position => exact Nat.succ_lt_succ (rest.lt_of_form? found)

theorem Fields.names_nodup (fields : Fields) (apart : fields.namedApart = true) : fields.names.Nodup := by
  cases fields with
  | nil => exact List.nodup_nil
  | cons name kind rest =>
    simp only [namedApart, Bool.and_eq_true, decide_eq_true_eq] at apart
    exact List.nodup_cons.mpr ⟨apart.1.1, rest.names_nodup apart.2⟩

theorem Fields.position?_reader (fields : Fields) (name : String) (closed : Bool) (key : String) :
    (fields.reader (α := Json) name closed).position? key = fields.names.findIdx? (· = key) := by
  simp [reader, fieldNames, RecordReader.position?, List.findIdx?_map, Function.comp_def]

private theorem Fields.written_reader (fields : Fields) (name : String) (closed : Bool) (value : fields.Value) :
    (fields.reader name closed).written (fields.form? value) = fields.toEntries value := by
  cases fields with
  | nil => rfl
  | cons first kind rest =>
    obtain ⟨value, values⟩ := value
    have later := rest.written_reader name closed values
    simp only [RecordReader.written, reader, fieldNames, names, List.map_cons, List.zipIdx_cons,
      List.zipIdx_succ, List.filterMap_cons, List.filterMap_map] at later ⊢
    exact congrArg ((first, kind.toJson value) :: ·) later

/-- A message comes back if each of its fields does. -/
theorem Fields.read_of_assigns (fields : Fields) (name : String) {closed : Bool} (apart : fields.names.Nodup)
    {value : fields.Value}
    (assigns : ∀ position json, fields.form? value position = some json →
      ∀ record, fields.assign closed position json record = .ok (fields.take value position record)) :
    fields.read name closed (fields.toJson value) = .ok value := by
  have restores : (fields.reader (α := Json) name closed).Restores (fields.take value) (fields.form? value) := by
    refine ⟨?_, ?_, fields.take_comm value, fields.take_take value, assigns, ?_, ?_, ?_⟩
    · intro field member
      obtain ⟨_, _, rfl⟩ := List.mem_map.mp member
      rfl
    · show (fields.fieldNames.map FieldName.name).Nodup
      simpa [fieldNames, Function.comp_def] using apart
    · intro position absent
      exact take_of_form?_eq_none absent _
    · intro position json found
      simpa [reader, fieldNames] using lt_of_form? found
    · intro position field found required
      obtain ⟨_, _, rfl⟩ := List.mem_map.mp (List.mem_of_getElem? found)
      cases required
  obtain ⟨result, read, taken⟩ := restores.read
  rw [fields.written_reader, eq_of_take taken] at read
  exact read

mutual

theorem Kind.read_toJson (closed : Bool) (kind : Kind) (apart : kind.namedApart = true)
    (value : kind.Value) : kind.read closed (kind.toJson value) = .ok value := by
  cases kind with
  | uint32 => exact readUInt32_ofNat value
  | uint64 => exact readUInt64_ofNat value
  | int32 => exact readInt32_ofInt value
  | bytes => exact readList_map (List.forall₂_same.mpr fun byte _ => readUInt8_ofNat byte)
  | string => exact readString_string value
  | words => exact readList_map (List.forall₂_same.mpr fun word _ => readUInt32_ofNat word)
  | message name fields =>
    cases value with
    | none => rfl
    | some value =>
      have names := fields.names_nodup apart
      have read := fields.read_of_assigns name names (Fields.assign_form? closed fields apart value)
      have present : fields.toJson value ≠ .null := by
        intro impossible
        cases impossible
      exact (readOption_present present).trans (congrArg (Except.map some) read)
  | messages name fields =>
    have names := fields.names_nodup apart
    apply readList_map
    apply List.forall₂_same.mpr
    intro value _
    exact fields.read_of_assigns name names (Fields.assign_form? closed fields apart value)

theorem Fields.assign_form? (closed : Bool) (fields : Fields) (apart : fields.namedApart = true)
    (value : fields.Value) (position : Nat) (json : Json) (found : fields.form? value position = some json)
    (record : fields.Value) :
    fields.assign closed position json record = .ok (fields.take value position record) := by
  cases fields with
  | nil => cases found
  | cons name kind rest =>
    simp only [Fields.namedApart, Bool.and_eq_true] at apart
    obtain ⟨⟨_, kindApart⟩, restApart⟩ := apart
    obtain ⟨value, values⟩ := value
    obtain ⟨old, others⟩ := record
    cases position with
    | zero =>
      cases found
      have read := kind.read_toJson closed kindApart value
      simp only [Fields.assign, read]
      rfl
    | succ position =>
      have assigned := rest.assign_form? closed restApart values position json found others
      simp only [Fields.assign, assigned]
      rfl

end

end NicFlow.Wire
